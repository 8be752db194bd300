import Oneshot.Proofs.Program.Imports

/-!
# Overlap of Generated Imports

An import line is generated or left out as a whole, and whether it is does not depend on the import
lines in front of it. A generated line can therefore import a path a second time in two ways: as a
group of which one path is imported already and another is missing, or as one of two import lines
that share a missing path. A compiler refuses such a program.

There is no third way (`ImportsOnce.of_noOverlap`). A line of one path is generated only where its
path is missing, so a table in which every line imports one path of its own makes no overlap. The
default table is such a table.

* `importsOnce_iff_noOverlap`: the generated imports import no path twice exactly when every import
  line is provided in full or not at all, and two of them share only paths that are provided.
* `path_generated_twice`: a table that spells one import in two ways has it generated twice.
* `default_importsOnce`: with the default table no path is imported twice.
-/

namespace Oneshot

namespace Program

open UseLine

variable {policy : Policy} {analysis : Analysis} {prelude text : Text}

/-- The entries among which an import line is looked for. -/
def givenEntries (policy : Policy) (prelude text : Text) : List Text :=
  Text.lines prelude ++ keptLines policy prelude text

/-- No line imports a path that an entry imports, and no two lines import the same path. -/
structure ImportsOnce (given lines : List Text) : Prop where
  fresh : ∀ line ∈ lines, ∀ path ∈ pathsOf [line], path ∉ pathsOf given
  apart : ∀ line ∈ lines, ∀ other ∈ lines, line ≠ other →
    ∀ path ∈ pathsOf [line], path ∉ pathsOf [other]

/-- The entries provide the paths of a line all or none, and every path that two lines share. -/
structure NoOverlap (given lines : List Text) : Prop where
  whole : ∀ line ∈ lines, (∀ path ∈ pathsOf [line], path ∈ pathsOf given) ∨
    ∀ path ∈ pathsOf [line], path ∉ pathsOf given
  shared : ∀ line ∈ lines, ∀ other ∈ lines, line ≠ other →
    ∀ path ∈ pathsOf [line], path ∈ pathsOf [other] → path ∈ pathsOf given

/-! ### Which lines are generated -/

/-- A generated line that imports anything imports a path that is missing. -/
theorem exists_missing_of_generated {line path : Text}
    (h : line ∈ generatedImports policy analysis prelude text) (hpath : path ∈ pathsOf [line]) :
    ∃ missing ∈ pathsOf [line], missing ∉ pathsOf (givenEntries policy prelude text) := by
  obtain ⟨-, hprovided⟩ := mem_lackingImports.1 h
  by_contra hall
  push Not at hall
  exact hprovided (.inr ⟨List.ne_nil_of_mem hpath, hall⟩)

/-- An import line with a missing path is generated. -/
theorem generated_of_missing {line path : Text} (h : line ∈ analysis.importLines)
    (hpath : path ∈ pathsOf [line]) (hmissing : path ∉ pathsOf (givenEntries policy prelude text)) :
    line ∈ generatedImports policy analysis prelude text :=
  mem_lackingImports.2 ⟨h, fun hprovided => hmissing (hprovided.mem_pathsOf hpath)⟩

theorem importLine_of_generated {line : Text}
    (h : line ∈ generatedImports policy analysis prelude text) : line ∈ analysis.importLines :=
  (mem_lackingImports.1 h).1

/-- An import line stands among the generated ones once at most. -/
theorem nodup_generatedImports : (generatedImports policy analysis prelude text).Nodup :=
  (Text.nodup_firsts _).filter _

/-! ### When a path is imported twice -/

/-- A table without overlap has every path generated once at most. -/
theorem ImportsOnce.of_noOverlap
    (h : NoOverlap (givenEntries policy prelude text) analysis.importLines) :
    ImportsOnce (givenEntries policy prelude text)
      (generatedImports policy analysis prelude text) := by
  have hfresh : ∀ line ∈ generatedImports policy analysis prelude text,
      ∀ path ∈ pathsOf [line], path ∉ pathsOf (givenEntries policy prelude text) := by
    intro line hline path hpath
    obtain ⟨missing, hmem, hmissing⟩ := exists_missing_of_generated hline hpath
    rcases h.whole line (importLine_of_generated hline) with hall | hnone
    · exact absurd (hall missing hmem) hmissing
    · exact hnone path hpath
  refine ⟨hfresh, fun line hline other hother hne path hpath hpath' => ?_⟩
  exact hfresh line hline path hpath (h.shared line (importLine_of_generated hline) other
    (importLine_of_generated hother) hne path hpath hpath')

/-- An overlap shows: where every path is generated once at most, there is none. -/
theorem NoOverlap.of_importsOnce (h : ImportsOnce (givenEntries policy prelude text)
      (generatedImports policy analysis prelude text)) :
    NoOverlap (givenEntries policy prelude text) analysis.importLines := by
  constructor
  · intro line hline
    by_cases hall : ∀ path ∈ pathsOf [line], path ∈ pathsOf (givenEntries policy prelude text)
    · exact .inl hall
    · push Not at hall
      obtain ⟨missing, hmem, hmissing⟩ := hall
      exact .inr (h.fresh line (generated_of_missing hline hmem hmissing))
  · intro line hline other hother hne path hpath hpath'
    by_contra hmissing
    exact h.apart line (generated_of_missing hline hpath hmissing) other
      (generated_of_missing hother hpath' hmissing) hne path hpath hpath'

/-- **The generated imports import no path twice exactly when the import lines have no overlap.**
No line is generated twice in any case, and one that imports anything imports a missing path. -/
theorem importsOnce_iff_noOverlap :
    (ImportsOnce (givenEntries policy prelude text)
        (generatedImports policy analysis prelude text) ↔
      NoOverlap (givenEntries policy prelude text) analysis.importLines) ∧
    (generatedImports policy analysis prelude text).Nodup ∧
    ∀ line ∈ generatedImports policy analysis prelude text, pathsOf [line] ≠ [] →
      ∃ missing ∈ pathsOf [line], missing ∉ pathsOf (givenEntries policy prelude text) := by
  refine ⟨⟨.of_importsOnce, .of_noOverlap⟩, nodup_generatedImports, fun line hline hne => ?_⟩
  obtain ⟨path, hpath⟩ := List.exists_mem_of_ne_nil _ hne
  exact exists_missing_of_generated hline hpath

/-- One import under two triggers, spelled as a path and as a group: both lines are generated. -/
theorem path_generated_twice :
    let policy : Policy := { Policy.default with triggers := [
      ⟨"File::", ["use std::fs::File;".toList]⟩,
      ⟨"fs::", ["use std::fs::\x7bFile\x7d;".toList]⟩] }
    let text : Text := "let f = fs::File::open(p)?;"
    ∃ analysis, Snippet.analyze policy text = .ok analysis ∧ analysis.hasEntryPoint = false ∧
      ¬ ImportsOnce (givenEntries policy [] text) (generatedImports policy analysis [] text) := by
  intro policy text
  refine ⟨⟨false, policy.triggers, []⟩, by decide, rfl, fun h => ?_⟩
  exact h.apart "use std::fs::File;" (by decide) "use std::fs::\x7bFile\x7d;" (by decide)
    (by decide) "std::fs::File" (by decide) (by decide)

/-! ### Tables of single paths -/

/-- Lines of one path each, no two of them of the same path, have no overlap. -/
theorem NoOverlap.of_single {lines : List Text} (given : List Text)
    (hsingle : ∀ line ∈ lines, (pathsOf [line]).length ≤ 1)
    (hown : ∀ line ∈ lines, ∀ other ∈ lines, line ≠ other →
      ∀ path ∈ pathsOf [line], path ∉ pathsOf [other]) : NoOverlap given lines := by
  refine ⟨fun line hline => ?_, fun line hline other hother hne path hpath hpath' => ?_⟩
  · have hlength := hsingle line hline
    rcases hpaths : pathsOf [line] with - | ⟨path, - | ⟨next, rest⟩⟩
    · simp
    · simpa using Classical.em (path ∈ pathsOf given)
    · simp [hpaths] at hlength
  · exact absurd hpath' (hown line hline other hother hne path hpath)

/-- The import lines of an analysed snippet are lines of the table. -/
theorem importLine_of_analyze (h : Snippet.analyze policy text = .ok analysis) {line : Text}
    (hline : line ∈ analysis.importLines) : line ∈ policy.triggers.flatMap Trigger.lines := by
  rw [Snippet.analyze] at h
  cases hcrates : Snippet.declaredCrates policy text with
  | error e => simp [hcrates, Except.map] at h
  | ok crates =>
    rw [hcrates] at h
    obtain rfl := Except.ok.inj h
    obtain ⟨trigger, htrigger, hmem⟩ := List.mem_flatMap.1 (Text.mem_firsts.1 hline)
    exact List.mem_flatMap.2 ⟨trigger, (List.mem_filter.1 htrigger).1, hmem⟩

/-- **With the default table no path is imported twice**, whatever stands in the prelude and in the
snippet. -/
theorem default_importsOnce (htable : policy.triggers = Policy.default.triggers)
    (h : Snippet.analyze policy text = .ok analysis) (prelude : Text) :
    ImportsOnce (givenEntries policy prelude text)
      (generatedImports policy analysis prelude text) := by
  have hlines : ∀ line ∈ analysis.importLines,
      line ∈ Policy.default.triggers.flatMap Trigger.lines := fun line hline =>
    htable ▸ importLine_of_analyze h hline
  have hsingle : ∀ line ∈ Policy.default.triggers.flatMap Trigger.lines,
      (pathsOf [line]).length ≤ 1 := by decide
  have hown : ∀ line ∈ Policy.default.triggers.flatMap Trigger.lines,
      ∀ other ∈ Policy.default.triggers.flatMap Trigger.lines, line ≠ other →
        ∀ path ∈ pathsOf [line], path ∉ pathsOf [other] := by decide
  exact .of_noOverlap (.of_single _ (fun line hline => hsingle line (hlines line hline))
    fun line hline other hother => hown line (hlines line hline) other (hlines other hother))

end Program

end Oneshot
