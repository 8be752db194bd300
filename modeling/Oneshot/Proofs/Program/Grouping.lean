import Oneshot.Proofs.Program.Imports
import Oneshot.Proofs.Snippet.Grouping

/-!
# Grouping in Front of a Program

A snippet may import the items of a group by lines of their own, and which imports are generated for
it does not depend on that. What the entries provide is a matter of two things only: their paths,
which are the same, and the entries without paths, which can equal an import line and provide it by
that alone.

Front lines without paths are kept as they are, and no other line becomes one of them. A group that
has items is none, and neither are the single lines. A group without items is one, and stands for no
lines at all: an import line that is the same empty group is provided by it.

* `provided_iff_of_paths`, `provided_iff_of_no_paths`: the two things that matter.
* `filter_no_paths_keptFront`: the front lines without paths.
* `imports_of_grouping`: a group and its single lines have the same paths, and the same imports are
  generated with either.
-/

namespace Oneshot

namespace UseLine

variable {imported : List Text} {line entry : Text}

/-- What is left of a line with paths has paths. -/
theorem pathsOf_ne_nil_of_without (hpaths : pathsOf [line] ≠ [])
    (h : without imported line = some entry) : pathsOf [entry] ≠ [] := by
  cases hu : ofLine? line with
  | none => exact absurd (pathsOf_singleton_of_none hu) hpaths
  | some u =>
    rw [without_of_some imported hu] at h
    split at h
    · obtain rfl := Option.some.inj h
      exact hpaths
    · next hlost =>
      split at h
      · simp at h
      · next hleft =>
        have hw : without imported line = some entry := by
          rw [without_of_some imported hu, if_neg hlost, if_neg hleft, h]
        rw [pathsOf_singleton_of_some ((leftOf_of_without hw).reading.trans (by rw [hu]; rfl))]
        simpa [paths, List.isEmpty_iff] using hleft

end UseLine

namespace Program

open UseLine

variable {analysis : Analysis} {prelude line : Text} {entries entries' front front' : List Text}

/-! ### What is provided -/

/-- A line with paths is provided as soon as all of them are imported. -/
theorem provided_iff_of_paths (hpaths : pathsOf [line] ≠ []) :
    Provided entries line ↔ ∀ path ∈ pathsOf [line], path ∈ pathsOf entries :=
  ⟨fun h _ hpath => h.mem_pathsOf hpath, fun h => .inr ⟨hpaths, h⟩⟩

/-- A line without paths is provided by an entry without paths that it equals up to blanks. -/
theorem provided_iff_of_no_paths (hpaths : pathsOf [line] = []) :
    Provided entries line ↔
      ∃ entry ∈ entries.filter fun entry => pathsOf [entry] = [],
        Text.trim entry = Text.trim line := by
  constructor
  · rintro (⟨entry, hentry, htrim⟩ | ⟨hne, -⟩)
    · refine ⟨entry, List.mem_filter.2 ⟨hentry, ?_⟩, htrim⟩
      have hsame : pathsOf [entry] = pathsOf [line] := by
        simp only [pathsOf, List.flatMap_singleton, ofLine?_congr_trim htrim]
      exact decide_eq_true (hsame.trans hpaths)
    · exact absurd hpaths hne
  · rintro ⟨entry, hentry, htrim⟩
    exact .inl ⟨entry, (List.mem_filter.1 hentry).1, htrim⟩

/-- Front lines without paths are kept as they are, and no other entry is without paths. -/
theorem filter_no_paths_keptFront (prelude : Text) (front : List Text) :
    (keptFront prelude front).filter (fun line => pathsOf [line] = [])
      = front.filter fun line => pathsOf [line] = [] := by
  induction front with
  | nil => rfl
  | cons line front ih =>
    rw [keptFront] at ih ⊢
    rw [List.filterMap_cons, List.filter_cons, ← ih]
    by_cases hpaths : pathsOf [line] = []
    · have hw : without (pathsOf (Text.lines prelude)) line = some line := by
        refine without_eq_self fun u hu path hpath => ?_
        rw [pathsOf_singleton_of_some hu] at hpaths
        simp [hpaths] at hpath
      simp [hw, hpaths]
    · cases hw : without (pathsOf (Text.lines prelude)) line with
      | none => simp [hpaths]
      | some entry => simp [hpaths, pathsOf_ne_nil_of_without hpaths hw]

/-- The same imports are generated where the same import lines are provided. -/
theorem lackingImports_congr (h : ∀ line ∈ analysis.importLines,
    (Provided (Text.lines prelude ++ entries) line ↔
      Provided (Text.lines prelude ++ entries') line)) :
    lackingImports analysis prelude entries = lackingImports analysis prelude entries' := by
  refine List.filter_congr fun line hline => Bool.eq_iff_iff.2 ?_
  have hlacking : line ∈ lackingImports analysis prelude entries
      ↔ line ∈ lackingImports analysis prelude entries' := by
    rw [mem_lackingImports, mem_lackingImports, h line hline]
  exact (and_congr_right_iff.1 (List.mem_filter.symm.trans (hlacking.trans List.mem_filter))) hline

/-- The generated imports depend on the paths of the front lines and on the lines without paths, and
on the latter only for import lines that have none themselves. -/
theorem lackingImports_keptFront_congr (hpaths : pathsOf front = pathsOf front')
    (hbare : front.filter (fun line => pathsOf [line] = [])
        = front'.filter (fun line => pathsOf [line] = []) ∨
      ∀ line ∈ analysis.importLines, pathsOf [line] ≠ []) :
    lackingImports analysis prelude (keptFront prelude front)
      = lackingImports analysis prelude (keptFront prelude front') := by
  have hentries : pathsOf (Text.lines prelude ++ keptFront prelude front)
      = pathsOf (Text.lines prelude ++ keptFront prelude front') := by
    rw [pathsOf_append, pathsOf_append, pathsOf_keptFront, pathsOf_keptFront, hpaths]
  refine lackingImports_congr fun line hline => ?_
  by_cases hne : pathsOf [line] = []
  · have hfilter := hbare.resolve_right fun hall => hall line hline hne
    rw [provided_iff_of_no_paths hne, provided_iff_of_no_paths hne, List.filter_append,
      List.filter_append, filter_no_paths_keptFront, filter_no_paths_keptFront, hfilter]
  · rw [provided_iff_of_paths hne, provided_iff_of_paths hne, hentries]

/-! ### Groups and single lines -/

variable {names items : List Text}

/-- **It makes no difference to import the items of a group by single lines.** The group has the
paths of the single lines, in any layout. Therefore, among whatever other front lines it stands, the
same imports are generated with the group and with the single lines, unless the group is empty and
an import line has no paths. -/
theorem imports_of_grouping (hnames : ∀ name ∈ names, IsSegment name)
    (hitems : ∀ item ∈ items, IsItem (scope names) item)
    (hline : GroupLine (scope names) items line) :
    pathsOf [line] = (items.flatMap fun item => pathsOf [singleLine (scope names) item]) ∧
      ∀ (analysis : Analysis) (prelude : Text) (before after : List Text),
        (items ≠ [] ∨ ∀ line ∈ analysis.importLines, pathsOf [line] ≠ []) →
          lackingImports analysis prelude (keptFront prelude (before ++ line :: after))
            = lackingImports analysis prelude (keptFront prelude
                (before ++ (items.map (singleLine (scope names)) ++ after))) := by
  have hgroup := pathsOf_groupLine hnames hitems hline
  refine ⟨hgroup, fun analysis prelude before after hne => ?_⟩
  refine lackingImports_keptFront_congr ?_ (hne.imp_left fun hne => ?_)
  · have hsingle : pathsOf (items.map (singleLine (scope names)))
        = items.flatMap fun item => pathsOf [singleLine (scope names) item] := by
      simp only [pathsOf, List.flatMap_map, List.flatMap_singleton]
    rw [pathsOf_append, pathsOf_append, pathsOf_cons line, pathsOf_append, hgroup, hsingle]
  · -- neither the group nor a single line is without paths
    have hpaths : pathsOf [line] ≠ [] := by
      rw [pathsOf_singleton_of_some (ofLine?_groupLine hnames hitems hline)]
      simpa [paths] using hne
    have hsingle : (items.map (singleLine (scope names))).filter (fun line => pathsOf [line] = [])
        = [] := by
      refine List.filter_eq_nil_iff.2 fun single hsingle => ?_
      obtain ⟨item, hitem, rfl⟩ := List.mem_map.1 hsingle
      simp [pathsOf_singleLine hnames (hitems item hitem)]
    rw [List.filter_append, List.filter_append, List.filter_append, hsingle, List.nil_append,
      List.filter_cons_of_neg (by simpa using hpaths)]

/-- The prefix itself, a path with another name, a path with a star and a plain name, in a group
with blanks of several kinds and with an empty piece: with the prelude, the group provides one of
the lines that the trigger asks for, and so do the single lines. -/
theorem imports_of_grouping_layout :
    let names : List Text := ["a", "b"]
    let items : List Text := ["self", "c::d as e", "f::*", "g"]
    let line : Text := "\tuse  a::b::\x7b self ,c::d as e ,, f::*,\tg, \x7d ; "
    let analysis : Analysis := ⟨false, [⟨"g", ["use a::b::\x7bg, h\x7d;", "use a::b::i;"]⟩], []⟩
    let prelude : Text := "use a::b::\x7bh, f::*\x7d;"
    (∀ name ∈ names, IsSegment name) ∧ (∀ item ∈ items, IsItem (scope names) item) ∧
      GroupLine (scope names) items line ∧
      pathsOf [line] = (items.flatMap fun item => pathsOf [singleLine (scope names) item]) ∧
      pathsOf [line] = ["a::b".toList, "a::b::c::d as e".toList, "a::b::f::*".toList,
        "a::b::g".toList] ∧
      keptFront prelude [line] = ["use a::b::\x7bself, c::d as e, g\x7d;".toList] ∧
      keptFront prelude (items.map (singleLine (scope names)))
        = ["use a::b::self;".toList, "use a::b::c::d as e;".toList, "use a::b::g;".toList] ∧
      lackingImports analysis prelude (keptFront prelude [line]) = ["use a::b::i;".toList] ∧
      lackingImports analysis prelude (keptFront prelude (items.map (singleLine (scope names))))
        = ["use a::b::i;".toList] := by
  intro names items line analysis prelude
  have hletter : ∀ c : Char, isWordChar c = true → IsSegment [c] := fun c hc =>
    isSegment_of_isWordChar (by simp) (by simpa using hc)
  have hstar : IsSegment ['*'] := ⟨by decide, List.forall_mem_singleton.2 (by decide),
    List.forall_mem_singleton.2 (by decide)⟩
  have hinner : ∀ c : Char, isWordChar c = true → ∀ name ∈ [[c]], IsSegment name := fun c hc =>
    List.forall_mem_singleton.2 (hletter c hc)
  have hnames : ∀ name ∈ names, IsSegment name := by
    intro name hname
    simp only [names, List.mem_cons, List.not_mem_nil, or_false] at hname
    rcases hname with rfl | rfl
    · exact hletter 'a' (by decide +kernel)
    · exact hletter 'b' (by decide +kernel)
  have hitems : ∀ item ∈ items, IsItem (scope names) item := by
    intro item hitem
    simp only [items, List.mem_cons, List.not_mem_nil, or_false] at hitem
    rcases hitem with rfl | rfl | rfl | rfl
    · exact .self (by decide)
    · exact .renamed (hinner 'c' (by decide +kernel)) (hletter 'd' (by decide +kernel))
        (hletter 'e' (by decide +kernel))
    · exact .path (hinner 'f' (by decide +kernel)) hstar (by decide)
    · exact @IsItem.path _ [] ['g'] (by simp) (hletter 'g' (by decide +kernel)) (by decide)
  have hblank : ∀ {s : Text}, s.all isBlank = true → Text.Blank s := List.all_eq_true.1
  have hpieces : Pieces items [" self ", "c::d as e ", "", " f::*", "\tg", " "] :=
    @Pieces.item [' '] _ [' '] _ _ (hblank rfl) (hblank rfl)
      (@Pieces.item [] _ [' '] _ _ (hblank rfl) (hblank rfl) (.blank (hblank rfl)
        (@Pieces.item [' '] _ [] _ _ (hblank rfl) (hblank rfl)
          (@Pieces.item ['\t'] _ [] _ _ (hblank rfl) (hblank rfl) (.blank (hblank rfl) .nil)))))
  have hline : GroupLine (scope names) items line :=
    @GroupLine.mk _ _ ['\t'] [' '] [' '] [' '] _ (hblank rfl) (hblank rfl) hpieces (hblank rfl)
      (hblank rfl)
  have hread : pathsOf [line] = ["a::b".toList, "a::b::c::d as e".toList, "a::b::f::*".toList,
      "a::b::g".toList] := by decide +kernel
  have hgenerated : lackingImports analysis prelude (keptFront prelude [line])
      = ["use a::b::i;".toList] := by decide +kernel
  obtain ⟨hpaths, hsame⟩ := imports_of_grouping hnames hitems hline
  have hsingle := hsame analysis prelude [] [] (.inl (by simp [items]))
  rw [List.nil_append, List.nil_append, List.append_nil] at hsingle
  exact ⟨hnames, hitems, hline, hpaths, hread, by decide +kernel, by decide +kernel, hgenerated,
    hsingle.symm.trans hgenerated⟩

/-- A group without items has no paths, but it provides an import line that is the same group. -/
example :
    let analysis : Analysis := ⟨false, [⟨"a", ["use a::\x7b\x7d;"]⟩], []⟩
    lackingImports analysis [] (keptFront [] [" use a::\x7b\x7d;".toList]) = [] ∧
      lackingImports analysis [] (keptFront [] []) = ["use a::\x7b\x7d;".toList] := by
  decide +kernel

end Program

end Oneshot
