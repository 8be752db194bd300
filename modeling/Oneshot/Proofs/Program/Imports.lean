import Mathlib.Data.List.Forall2
import Oneshot.Proofs.Program.Layout
import Oneshot.Proofs.Snippet.UseGroup

/-!
# Imports of a Wrapped Program

Three sources of imports meet in front of the header: the prelude, the front lines of the snippet
and the triggers of the policy. Wrapping drops what would be imported twice, by two tests that are
not the same. A front line loses the items that the prelude imports; an import line of a trigger is
left out as a whole, if an entry equals it up to blanks or if all its paths are imported.

Neither test loses a path, because each one drops only what another entry provides, and none
invents one, because what is left of a front line is read as the items that were left
(`UseLine.pathsOf_without`).

* `mem_lackingImports`: which import lines are generated.
* `mem_pathsOf_preamble`: the paths that the program imports are those of the three sources.
* `imports_before_header`: what becomes of each front line and of each import line.
-/

namespace Oneshot

namespace UseLine

/-! ### Front lines -/

/-- `entry` is what is left of `line`: it is read as the items that are left, and it is the line
itself where nothing was taken from it. -/
structure LeftOf (imported : List Text) (line entry : Text) : Prop where
  reading : ofLine? entry = (ofLine? line).map (remaining imported)
  unchanged : (∀ u, ofLine? line = some u → u.remaining imported = u) → entry = line

theorem leftOf_of_without {imported : List Text} {line entry : Text}
    (h : without imported line = some entry) : LeftOf imported line entry := by
  cases hu : ofLine? line with
  | none =>
    rw [without, hu] at h
    obtain rfl := Option.some.inj h
    exact ⟨by rw [hu]; rfl, fun _ => rfl⟩
  | some u =>
    rcases without_cases imported hu with ⟨hall, hw⟩ | ⟨hne, ⟨-, hw⟩ | ⟨hgroup, hw⟩⟩
    · obtain rfl := Option.some.inj (hw.symm.trans h)
      exact ⟨by rw [hu, Option.map_some, hall], fun _ => rfl⟩
    · simp [hw] at h
    · obtain rfl := Option.some.inj (hw.symm.trans h)
      exact ⟨by rw [hu, Option.map_some, ofLine?_render hgroup], fun hall => absurd (hall u hu) hne⟩

end UseLine

namespace Program

open UseLine

variable {policy : Policy} {analysis : Analysis} {prelude text : Text}

/-- The paths of the kept front lines are those of the front lines that the prelude lacks. -/
theorem pathsOf_keptFront (prelude : Text) (front : List Text) :
    pathsOf (keptFront prelude front)
      = (pathsOf front).filter fun path => !(pathsOf (Text.lines prelude)).elem path := by
  induction front with
  | nil => rfl
  | cons line front ih =>
    have hline := pathsOf_without (pathsOf (Text.lines prelude)) line
    rw [keptFront] at ih ⊢
    rw [pathsOf_cons line, List.filter_append, ← ih, ← hline, List.filterMap_cons]
    cases without (pathsOf (Text.lines prelude)) line with
    | none => rfl
    | some entry => exact pathsOf_cons entry _

/-- The kept front lines stand in the order of the front lines that they are left of. -/
theorem exists_origins (prelude : Text) (front : List Text) :
    ∃ origins : List Text, origins.Sublist front ∧
      List.Forall₂ (LeftOf (pathsOf (Text.lines prelude))) origins (keptFront prelude front) := by
  induction front with
  | nil => exact ⟨[], List.Sublist.refl [], .nil⟩
  | cons line front ih =>
    obtain ⟨origins, hsub, hleft⟩ := ih
    rw [keptFront, List.filterMap_cons]
    cases hw : without (pathsOf (Text.lines prelude)) line with
    | none => exact ⟨origins, hsub.cons line, hleft⟩
    | some entry =>
      exact ⟨line :: origins, hsub.cons_cons line, .cons (leftOf_of_without hw) hleft⟩

/-- A front line that is not read as a use line is kept, and no other entry is such a line. -/
theorem filter_unread_keptFront (prelude : Text) (front : List Text) :
    (keptFront prelude front).filter (fun line => (ofLine? line).isNone)
      = front.filter fun line => (ofLine? line).isNone := by
  induction front with
  | nil => rfl
  | cons line front ih =>
    rw [keptFront] at ih ⊢
    rw [List.filterMap_cons, List.filter_cons, ← ih]
    cases hu : ofLine? line with
    | none =>
      have hw : without (pathsOf (Text.lines prelude)) line = some line := by
        rw [without, hu]
      simp [hw, hu]
    | some u =>
      cases hw : without (pathsOf (Text.lines prelude)) line with
      | none => rfl
      | some entry =>
        have hread := (leftOf_of_without hw).reading
        simp [hread, hu]

/-! ### Generated imports -/

/-- The entries provide a line: one of them equals it up to blanks, or they import its paths. -/
def Provided (entries : List Text) (line : Text) : Prop :=
  (∃ entry ∈ entries, Text.trim entry = Text.trim line) ∨
    (pathsOf [line] ≠ [] ∧ ∀ path ∈ pathsOf [line], path ∈ pathsOf entries)

/-- The import lines that are generated are those that nothing else provides. -/
theorem mem_lackingImports {front : List Text} {line : Text} :
    line ∈ lackingImports analysis prelude front ↔
      line ∈ analysis.importLines ∧ ¬ Provided (Text.lines prelude ++ front) line := by
  have hprovided : (((Text.lines prelude ++ front).map Text.trim).elem (Text.trim line)
      || (!(pathsOf [line]).isEmpty
        && (pathsOf [line]).all (pathsOf (Text.lines prelude ++ front)).elem)) = true
      ↔ Provided (Text.lines prelude ++ front) line := by
    simp only [Provided, Bool.or_eq_true, Bool.and_eq_true, List.elem_iff, List.mem_map,
      Bool.not_eq_true', List.isEmpty_eq_false_iff, List.all_eq_true, ne_eq]
  rw [lackingImports, List.mem_filter, ← hprovided, Bool.not_eq_true, Bool.not_eq_true']

/-- The paths of a line that is provided are imported, also where only the line is compared. -/
theorem Provided.mem_pathsOf {entries : List Text} {line : Text} (h : Provided entries line)
    {path : Text} (hpath : path ∈ pathsOf [line]) : path ∈ pathsOf entries := by
  rcases h with ⟨entry, hentry, htrim⟩ | ⟨-, hall⟩
  · refine UseLine.mem_pathsOf.2 ⟨entry, hentry, ?_⟩
    rw [pathsOf, List.flatMap_singleton, ofLine?_congr_trim htrim]
    simpa [pathsOf] using hpath
  · exact hall path hpath

/-! ### The imports in front of the header -/

/-- The front lines of the snippet, as they stand in the program. -/
def keptLines (policy : Policy) (prelude text : Text) : List Text :=
  keptFront prelude (Snippet.divide policy text).front

/-- The import lines that are generated for the snippet. -/
def generatedImports (policy : Policy) (analysis : Analysis) (prelude text : Text) : List Text :=
  lackingImports analysis prelude (keptLines policy prelude text)

theorem preamble_eq (policy : Policy) (analysis : Analysis) (prelude text : Text) :
    preamble policy analysis prelude text
      = Text.lines prelude ++ generatedImports policy analysis prelude text
        ++ keptLines policy prelude text :=
  rfl

/-- The paths of the preamble are those of the prelude, of the front lines and of the import
lines. -/
theorem mem_pathsOf_preamble {path : Text} :
    path ∈ pathsOf (preamble policy analysis prelude text) ↔
      path ∈ pathsOf (Text.lines prelude) ∨ path ∈ pathsOf (Snippet.divide policy text).front ∨
        path ∈ pathsOf analysis.importLines := by
  have hkept : path ∈ pathsOf (keptLines policy prelude text) ↔
      path ∈ pathsOf (Snippet.divide policy text).front ∧ path ∉ pathsOf (Text.lines prelude) := by
    simp [keptLines, pathsOf_keptFront, List.mem_filter]
  rw [preamble_eq, pathsOf_append, pathsOf_append, List.mem_append, List.mem_append, hkept]
  constructor
  · rintro ((hprelude | hgenerated) | ⟨hfront, -⟩)
    · exact .inl hprelude
    · obtain ⟨line, hline, hpath⟩ := mem_pathsOf.1 hgenerated
      exact .inr (.inr (mem_pathsOf.2 ⟨line, (mem_lackingImports.1 hline).1, hpath⟩))
    · exact .inr (.inl hfront)
  · rintro (hprelude | hfront | himport)
    · exact .inl (.inl hprelude)
    · by_cases hprelude : path ∈ pathsOf (Text.lines prelude)
      · exact .inl (.inl hprelude)
      · exact .inr ⟨hfront, hprelude⟩
    · obtain ⟨line, hline, hpath⟩ := mem_pathsOf.1 himport
      by_cases hp : Provided (Text.lines prelude ++ keptLines policy prelude text) line
      · -- an entry that provides the line imports its paths
        have himported := hp.mem_pathsOf hpath
        rw [pathsOf_append, List.mem_append, hkept] at himported
        exact himported.imp_left .inl
      · exact .inl (.inr (mem_pathsOf.2 ⟨line, mem_lackingImports.2 ⟨hline, hp⟩, hpath⟩))

/-- **No import is lost or invented.** The entries of a wrapped program before its header import
the paths of the prelude, of the front lines and of the import lines. The front lines that are kept
are left of front lines in their order and import the paths that the prelude lacks; those that are
not read as use lines are all kept. Every import line is generated or provided. -/
theorem imports_before_header (h : analysis.hasEntryPoint = false) :
    (ofSnippet policy analysis prelude text).text
        = Text.ended (Text.lines prelude ++ generatedImports policy analysis prelude text
            ++ keptLines policy prelude text) ++ (header ++ '\n' :: behindHeader policy text) ∧
      (∀ path, path ∈ pathsOf (Text.lines prelude
            ++ generatedImports policy analysis prelude text ++ keptLines policy prelude text) ↔
          path ∈ pathsOf (Text.lines prelude) ∨ path ∈ pathsOf (Snippet.divide policy text).front ∨
            path ∈ pathsOf analysis.importLines) ∧
      (∀ path, path ∈ pathsOf (keptLines policy prelude text) ↔
          path ∈ pathsOf (Snippet.divide policy text).front ∧
            path ∉ pathsOf (Text.lines prelude)) ∧
      (keptLines policy prelude text).filter (fun line => (ofLine? line).isNone)
        = (Snippet.divide policy text).front.filter (fun line => (ofLine? line).isNone) ∧
      (∃ origins : List Text, origins.Sublist (Snippet.divide policy text).front ∧
        List.Forall₂ (LeftOf (pathsOf (Text.lines prelude))) origins
          (keptLines policy prelude text)) ∧
      ∀ line ∈ analysis.importLines, line ∈ generatedImports policy analysis prelude text ∨
        Provided (Text.lines prelude ++ keptLines policy prelude text) line := by
  refine ⟨text_ofSnippet h, fun path => mem_pathsOf_preamble, fun path => ?_,
    filter_unread_keptFront prelude _, exists_origins prelude _, fun line hline => ?_⟩
  · simp [keptLines, pathsOf_keptFront, List.mem_filter]
  · by_cases hp : Provided (Text.lines prelude ++ keptLines policy prelude text) line
    · exact .inr hp
    · exact .inl (mem_lackingImports.2 ⟨hline, hp⟩)

/-- Of a group the items are kept that the prelude lacks, and what was imported before is imported
still. -/
theorem imports_before_header_group :
    let analysis : Analysis := ⟨false, Policy.default.triggers.take 1, []⟩
    let prelude : Text := "use std::io::Write;"
    let text : Text := Text.ended
      ["use std::io::\x7bself, Write, Read\x7d;", "use std::fmt::Write as FmtWrite;",
        "let f = File::open(\"a\")?;"]
    keptLines Policy.default prelude text
        = ["use std::io::\x7bself, Read\x7d;".toList, "use std::fmt::Write as FmtWrite;".toList] ∧
      ∀ path ∈ pathsOf (Snippet.divide Policy.default text).front,
        path ∈ pathsOf (Text.lines prelude
          ++ generatedImports Policy.default analysis prelude text
          ++ keptLines Policy.default prelude text) := by
  intro analysis prelude text
  have hwrapped : analysis.hasEntryPoint = false := rfl
  refine ⟨by decide, fun path hpath => ?_⟩
  exact ((imports_before_header hwrapped).2.1 path).2 (.inr (.inl hpath))

end Program

end Oneshot
