import Mathlib.Data.Bool.AllAny
import Oneshot.Proofs.Snippet.Respacing
import Oneshot.Proofs.Snippet.UseGroup

/-!
# Groups and Single Lines

The items of a group can be imported by lines of their own. A single line is read in another way
than a group: its path is cut at its last two colons, which may lie inside of the item, and `self`
is then what stands behind them. Both readings give the same path nevertheless, for an item that is
a path of names, with a new name or without, and in whatever layout the group is written.

* `IsSegment`, `IsItem`: the names of a path, and the items of a group.
* `Pieces`, `GroupLine`: how a group can be laid out.
* `ofLine?_groupLine`, `pathsOf_singleLine`: how a group and a single line are read.
* `pathsOf_groupLine`: a group has the paths of the single lines.
-/

namespace Oneshot

namespace Text

theorem cutLast?_double_eq_none {c : Char} {s : Text} (h : c ∉ s) : cutLast? [c, c] s = none := by
  rw [Option.eq_none_iff_forall_ne_some]
  rintro ⟨before, after⟩ hcut
  exact h (by simp [cutLast?_eq hcut])

/-- The text is cut at its last two colons, or at another character that is doubled. -/
theorem cutLast?_double {c : Char} {leaf : Text} (h : c ∉ leaf) (front : Text) :
    cutLast? [c, c] (front ++ c :: c :: leaf) = some (front, leaf) := by
  have hsingle : cutLast? [c, c] (c :: leaf) = none := by
    have hstart : ¬ [c, c].isPrefixOf (c :: leaf) = true := by
      rw [List.isPrefixOf_iff_prefix, List.cons_prefix_cons, and_iff_right rfl]
      exact fun hleaf => h (hleaf.subset (by simp))
    rw [cutLast?, cutLast?_double_eq_none h]
    exact if_neg hstart
  induction front with
  | nil =>
    rw [List.nil_append, cutLast?, hsingle]
    simp
  | cons d front ih => rw [List.cons_append, cutLast?, ih]

end Text

namespace UseLine

open Text (Blank IsWord)
open Snippet (IsSpaced isGap_singleton)

/-! ### Paths of names -/

/-- A name in a path: no blank, and none of the marks by which a use line is read. Every identifier
is such a name, and so is the star. -/
structure IsSegment (s : Text) : Prop where
  ne_nil : s ≠ []
  not_isBlank : ∀ c ∈ s, isBlank c = false
  not_mark : ∀ c ∈ s, c ∉ [':', ',', '\x7b', '\x7d']

theorem isSegment_of_isWordChar {s : Text} (hne : s ≠ []) (h : ∀ c ∈ s, isWordChar c = true) :
    IsSegment s where
  ne_nil := hne
  not_isBlank c hc := isBlank_of_isWordChar (h c hc)
  not_mark c hc hmark := by
    have hmarks : ∀ d ∈ [':', ',', '\x7b', '\x7d'], isWordChar d = false :=
      List.all_iff_forall_prop.1 (by decide +kernel)
    exact Bool.false_ne_true ((hmarks c hmark).symm.trans (h c hc))

theorem IsSegment.isWord {s : Text} (h : IsSegment s) : IsWord s :=
  ⟨h.ne_nil, h.not_isBlank⟩

theorem isSegment_self : IsSegment "self".toList :=
  isSegment_of_isWordChar (by decide) (List.all_iff_forall_prop.1 (by decide +kernel))

/-- Names, each with two colons behind it. -/
def scope (names : List Text) : Text :=
  names.flatMap (· ++ [':', ':'])

variable {names : List Text}

theorem not_isBlank_of_mem_scope (hnames : ∀ name ∈ names, IsSegment name) {c : Char}
    (hc : c ∈ scope names) : isBlank c = false := by
  obtain ⟨name, hname, hc⟩ := List.mem_flatMap.1 hc
  rcases List.mem_append.1 hc with hc | hc
  · exact (hnames name hname).not_isBlank c hc
  · obtain rfl : c = ':' := by simpa using hc
    decide

theorem not_mark_of_mem_scope (hnames : ∀ name ∈ names, IsSegment name) {c : Char}
    (hc : c ∈ scope names) : c ∉ [',', '\x7b', '\x7d'] := by
  obtain ⟨name, hname, hc⟩ := List.mem_flatMap.1 hc
  rcases List.mem_append.1 hc with hc | hc
  · exact fun hmark => (hnames name hname).not_mark c hc (List.mem_cons_of_mem _ hmark)
  · obtain rfl : c = ':' := by simpa using hc
    decide

/-- An item of a group with this prefix: the prefix itself, or a path of names that does not end in
`self`, or a path of names that gets another name. -/
inductive IsItem (pathPrefix : Text) : Text → Prop
  | self (h : pathPrefix ≠ []) : IsItem pathPrefix "self".toList
  | path {names : List Text} {last : Text} (hnames : ∀ name ∈ names, IsSegment name)
      (hlast : IsSegment last) (hself : last ≠ "self".toList) :
      IsItem pathPrefix (scope names ++ last)
  | renamed {names : List Text} {last name : Text} (hnames : ∀ name ∈ names, IsSegment name)
      (hlast : IsSegment last) (hname : IsSegment name) :
      IsItem pathPrefix (scope names ++ (last ++ (" as ".toList ++ name)))

variable {pathPrefix item line before after : Text} {items pieces : List Text}

namespace IsItem

theorem not_mark (h : IsItem pathPrefix item) : ∀ c ∈ item, c ∉ [',', '\x7b', '\x7d'] := by
  have hsegment : ∀ {s : Text}, IsSegment s → ∀ c ∈ s, c ∉ [',', '\x7b', '\x7d'] :=
    fun hs c hc hmark => hs.not_mark c hc (List.mem_cons_of_mem _ hmark)
  cases h with
  | self => exact hsegment isSegment_self
  | path hnames hlast hself =>
    exact fun c hc => (List.mem_append.1 hc).elim (not_mark_of_mem_scope hnames) (hsegment hlast c)
  | renamed hnames hlast hname =>
    have hkeyword : ∀ c ∈ " as ".toList, c ∉ [',', '\x7b', '\x7d'] :=
      List.all_iff_forall_prop.1 (by decide)
    intro c hc
    simp only [List.mem_append] at hc
    rcases hc with hc | hc | hc | hc
    · exact not_mark_of_mem_scope hnames hc
    · exact hsegment hlast c hc
    · exact hkeyword c hc
    · exact hsegment hname c hc

/-- Blanks around an item are lost with single spacing, and nothing else is. -/
theorem singleSpaced_padded (h : IsItem pathPrefix item) (hbefore : Blank before)
    (hafter : Blank after) : Text.singleSpaced (before ++ (item ++ after)) = item := by
  suffices ∃ ws, IsSpaced (item ++ after) ws ∧ Text.join [' '] ws = item by
    obtain ⟨ws, hspaced, hjoin⟩ := this
    rw [Text.singleSpaced, Snippet.words_append_of_isBlank hbefore, hspaced.words_eq, hjoin]
  have hword : ∀ {names : List Text} {last : Text}, (∀ name ∈ names, IsSegment name) →
      IsSegment last → IsWord (scope names ++ last) := fun hnames hlast =>
    ⟨by simp [hlast.ne_nil], fun c hc => (List.mem_append.1 hc).elim
      (not_isBlank_of_mem_scope hnames) (hlast.not_isBlank c)⟩
  cases h with
  | self => exact ⟨["self".toList], .last isSegment_self.isWord hafter, rfl⟩
  | path hnames hlast hself => exact ⟨[_], .last (hword hnames hlast) hafter, rfl⟩
  | @renamed names last name hnames hlast hname =>
    have hgap := isGap_singleton (c := ' ') (by decide)
    have hkeyword : IsWord "as".toList := ⟨by decide, List.all_iff_forall_prop.1 (by decide)⟩
    have hspaced : IsSpaced _ [scope names ++ last, "as".toList, name] :=
      .next (hword hnames hlast) hgap (.next hkeyword hgap (.last hname.isWord hafter))
    exact ⟨_, by simpa using hspaced, by simp [Text.join]⟩

theorem singleSpaced_eq (h : IsItem pathPrefix item) : Text.singleSpaced item = item := by
  have hblank : Blank [] := by simp [Blank]
  simpa using h.singleSpaced_padded hblank hblank

theorem ne_nil (h : IsItem pathPrefix item) : item ≠ [] := by
  cases h with
  | self => decide
  | path hnames hlast hself => simp [hlast.ne_nil]
  | renamed hnames hlast hname => simp [hlast.ne_nil]

/-- **What stands behind the last colons** of an item, by itself, with the names in front of it
added to the prefix, is the path of the item. -/
theorem exists_leaf (h : IsItem (scope names) item) :
    ∃ inner leaf, item = scope inner ++ leaf ∧ (∀ name ∈ inner, IsSegment name) ∧ ':' ∉ leaf ∧
      Text.singleSpaced leaf = leaf ∧
      pathOfItem (scope names ++ scope inner) leaf = pathOfItem (scope names) item := by
  -- neither the leaf nor the item of a longer path is `self`
  have hplain : ∀ (inner : List Text) {leaf : Text}, leaf ≠ "self".toList →
      pathOfItem (scope names ++ scope inner) leaf
        = pathOfItem (scope names) (scope inner ++ leaf) := by
    intro inner leaf hleaf
    have hitem : scope inner ++ leaf ≠ "self".toList := by
      cases inner with
      | nil => exact hleaf
      | cons name inner =>
        have hcolon : ':' ∈ scope (name :: inner) ++ leaf := by simp [scope]
        intro heq
        rw [heq] at hcolon
        revert hcolon
        decide
    rw [pathOfItem, if_neg (by simpa using hleaf), pathOfItem, if_neg (by simpa using hitem),
      List.append_assoc]
  have hcolon : ∀ {s : Text}, IsSegment s → ':' ∉ s := fun hs hc => hs.not_mark _ hc (by simp)
  cases h with
  | self hne => exact ⟨[], "self".toList, rfl, by simp, by decide, by decide, by simp [scope]⟩
  | path hinner hlast hself =>
    have hitem : IsItem (scope []) (scope [] ++ _) := .path (by simp) hlast hself
    exact ⟨_, _, rfl, hinner, hcolon hlast, hitem.singleSpaced_eq, hplain _ hself⟩
  | @renamed inner last name hinner hlast hname =>
    have hitem : IsItem (scope []) (scope [] ++ _) := .renamed (by simp) hlast hname
    refine ⟨_, _, rfl, hinner, ?_, hitem.singleSpaced_eq, hplain _ fun heq => ?_⟩
    · simp only [List.mem_append, not_or]
      exact ⟨hcolon hlast, by decide, hcolon hname⟩
    · have hspace : ' ' ∈ last ++ (" as ".toList ++ name) := by simp
      rw [heq] at hspace
      revert hspace
      decide

end IsItem

/-! ### Single lines -/

/-- The line that imports one item. -/
def singleLine (pathPrefix item : Text) : Text :=
  "use ".toList ++ (pathPrefix ++ item) ++ [';']

theorem scope_eq_nil_or (names : List Text) :
    scope names = [] ∨ ∃ front, scope names = front ++ [':', ':'] := by
  rcases List.eq_nil_or_concat names with rfl | ⟨init, last, rfl⟩
  · exact .inl rfl
  · exact .inr ⟨scope init ++ last, by simp [scope]⟩

/-- A path of names is cut behind its last colons. -/
theorem ofTree?_scope {leaf : Text} (hnames : ∀ name ∈ names, IsSegment name)
    (hne : scope names ++ leaf ≠ []) (hcolon : ':' ∉ leaf)
    (hmark : ∀ c ∈ leaf, c ∉ [',', '\x7b', '\x7d']) :
    ofTree? (scope names ++ leaf) = some ⟨scope names, [Text.singleSpaced leaf]⟩ := by
  have hbrace : ∀ c ∈ ['\x7b', '\x7d'], c ∉ scope names ++ leaf := fun c hbrace hc =>
    (List.mem_append.1 hc).elim
      (fun hc => not_mark_of_mem_scope hnames hc (List.mem_cons_of_mem _ hbrace))
      fun hc => hmark c hc (List.mem_cons_of_mem _ hbrace)
  rw [ofTree?, if_pos (by simpa using hbrace '\x7b' (by simp)),
    if_neg (by simpa using ⟨by simpa using hbrace '\x7d' (by simp), by simpa using hne⟩)]
  rcases scope_eq_nil_or names with hnil | ⟨front, hfront⟩
  · rw [hnil, List.nil_append, Text.cutLast?_double_eq_none hcolon]
  · rw [hfront, List.append_assoc, List.cons_append, List.cons_append, List.nil_append,
      Text.cutLast?_double hcolon]

/-- **A single line has the path of its item.** -/
theorem pathsOf_singleLine (hnames : ∀ name ∈ names, IsSegment name)
    (hitem : IsItem (scope names) item) :
    pathsOf [singleLine (scope names) item] = [pathOfItem (scope names) item] := by
  obtain ⟨inner, leaf, rfl, hinner, hcolon, hspaced, hpath⟩ := hitem.exists_leaf
  have hscope : scope names ++ (scope inner ++ leaf) = scope (names ++ inner) ++ leaf := by
    simp [scope]
  have hnames' : ∀ name ∈ names ++ inner, IsSegment name := fun name hname =>
    (List.mem_append.1 hname).elim (hnames name) (hinner name)
  have htrimmed : Text.Trimmed (scope (names ++ inner) ++ leaf) := by
    refine .append (Text.trimmed_of_not_isBlank fun c => not_isBlank_of_mem_scope hnames') ?_
    rw [← hspaced]
    exact Text.trimmed_singleSpaced leaf
  have hne : scope (names ++ inner) ++ leaf ≠ [] := by
    rw [← hscope]
    simp [hitem.ne_nil]
  have hmark : ∀ c ∈ leaf, c ∉ [',', '\x7b', '\x7d'] := fun c hc =>
    hitem.not_mark c (List.mem_append_right _ hc)
  have hblank : Blank [] := by simp [Blank]
  have hread := ofLine?_padded hblank hblank htrimmed hblank hblank
  rw [ofTree?_scope hnames' hne hcolon hmark, hspaced, ← hscope] at hread
  have hline : singleLine (scope names) (scope inner ++ leaf)
      = [] ++ ("use ".toList ++ ([] ++ (scope names ++ (scope inner ++ leaf) ++ [])) ++ [';'] ++ [])
      := by
    rw [List.nil_append, List.nil_append, List.append_nil, List.append_nil]
    rfl
  rw [hline, pathsOf_singleton_of_some hread, ← hpath]
  simp [paths, scope]

/-! ### Groups -/

/-- What can stand between the commas of a group: its items with blanks around them, and blanks
alone, as behind a last comma. -/
inductive Pieces : (items pieces : List Text) → Prop
  | nil : Pieces [] []
  | item {before item after : Text} {items pieces : List Text} (hbefore : Blank before)
      (hafter : Blank after) (rest : Pieces items pieces) :
      Pieces (item :: items) ((before ++ (item ++ after)) :: pieces)
  | blank {piece : Text} {items pieces : List Text} (hpiece : Blank piece)
      (rest : Pieces items pieces) : Pieces items (piece :: pieces)

/-- A line with a group of these items, in any layout: with blanks around the line, around what it
imports and around its items. -/
inductive GroupLine (pathPrefix : Text) (items : List Text) : Text → Prop
  | mk {before gap gap' after : Text} {pieces : List Text} (hbefore : Blank before)
      (hgap : Blank gap) (hpieces : Pieces items pieces) (hgap' : Blank gap')
      (hafter : Blank after) :
      GroupLine pathPrefix items (before ++ ("use ".toList ++ (gap ++ ((pathPrefix ++ '\x7b' ::
        (Text.join [','] pieces ++ ['\x7d'])) ++ gap')) ++ [';'] ++ after))

/-- The pieces are read as the items. -/
theorem Pieces.filter_singleSpaced (h : Pieces items pieces)
    (hitems : ∀ item ∈ items, IsItem pathPrefix item) :
    (pieces.map Text.singleSpaced).filter (fun item => !item.isEmpty) = items := by
  induction h with
  | nil => rfl
  | @item before item after items pieces hbefore hafter _ ih =>
    have hitem := hitems item (by simp)
    rw [List.map_cons, hitem.singleSpaced_padded hbefore hafter,
      List.filter_cons_of_pos (by simpa using hitem.ne_nil),
      ih fun other hother => hitems other (List.mem_cons_of_mem item hother)]
  | @blank piece items pieces hpiece _ ih =>
    have hempty : Text.singleSpaced piece = [] := by
      rw [Text.singleSpaced, ← List.append_nil piece, Snippet.words_append_of_isBlank hpiece]
      rfl
    rw [List.map_cons, hempty, List.filter_cons_of_neg (by simp), ih hitems]

/-- No piece holds a comma or a brace. -/
theorem Pieces.not_mark (h : Pieces items pieces)
    (hitems : ∀ item ∈ items, IsItem pathPrefix item) :
    ∀ piece ∈ pieces, ∀ c ∈ piece, c ∉ [',', '\x7b', '\x7d'] := by
  have hblank : ∀ {s : Text}, Blank s → ∀ c ∈ s, c ∉ [',', '\x7b', '\x7d'] := by
    intro s hs c hc hmark
    have hmarks : ∀ d ∈ [',', '\x7b', '\x7d'], isBlank d = false :=
      List.all_iff_forall_prop.1 (by decide)
    exact Bool.false_ne_true ((hmarks c hmark).symm.trans (hs c hc))
  induction h with
  | nil => simp
  | @item before item after items pieces hbefore hafter _ ih =>
    intro piece hpiece c hc
    rcases List.mem_cons.1 hpiece with rfl | hpiece
    · simp only [List.mem_append] at hc
      rcases hc with hc | hc | hc
      · exact hblank hbefore c hc
      · exact (hitems item (by simp)).not_mark c hc
      · exact hblank hafter c hc
    · have hitems' := fun other hother => hitems other (List.mem_cons_of_mem item hother)
      exact ih hitems' piece hpiece c hc
  | @blank piece items pieces hpiece _ ih =>
    intro other hother
    rcases List.mem_cons.1 hother with rfl | hother
    · exact hblank hpiece
    · exact ih hitems other hother

/-- The text between the braces is cut at its commas into the pieces, except that a text without any
is one empty piece. -/
theorem Pieces.items_eq (h : Pieces items pieces)
    (hitems : ∀ item ∈ items, IsItem pathPrefix item) :
    ((Text.splitAt ',' (Text.join [','] pieces)).map Text.singleSpaced).filter
      (fun item => !item.isEmpty) = items := by
  by_cases hne : pieces = []
  · subst hne
    cases h
    rfl
  · have hcomma : ∀ piece ∈ pieces, ',' ∉ piece := fun piece hpiece hc =>
      h.not_mark hitems piece hpiece _ hc (by simp)
    rw [Text.splitAt_join hne hcomma, h.filter_singleSpaced hitems]

/-- **A group is read as its prefix and its items**, whatever its layout. -/
theorem ofLine?_groupLine (hnames : ∀ name ∈ names, IsSegment name)
    (hitems : ∀ item ∈ items, IsItem (scope names) item)
    (hline : GroupLine (scope names) items line) : ofLine? line = some ⟨scope names, items⟩ := by
  cases hline with
  | @mk before gap gap' after pieces hbefore hgap hpieces hgap' hafter =>
    have hscope : Text.Trimmed (scope names) :=
      Text.trimmed_of_not_isBlank fun c => not_isBlank_of_mem_scope hnames
    have hfront : '\x7b' ∉ scope names := fun hc => not_mark_of_mem_scope hnames hc (by simp)
    have hinner : ∀ c ∈ ['\x7b', '\x7d'], c ∉ Text.join [','] pieces := by
      intro c hbrace hc
      rcases Text.mem_of_mem_join hc with hc | ⟨piece, hpiece, hc⟩
      · obtain rfl := List.mem_singleton.1 hc
        simp at hbrace
      · exact hpieces.not_mark hitems piece hpiece c hc (List.mem_cons_of_mem _ hbrace)
    rw [ofLine?_padded hbefore hgap (trimmed_braces hscope _) hgap' hafter,
      ofTree?_braces hfront (hinner _ (by simp)) (hinner _ (by simp)), Text.trim_eq_self hscope,
      hpieces.items_eq hitems]

/-- **A group has the paths of the single lines** of its items. -/
theorem pathsOf_groupLine (hnames : ∀ name ∈ names, IsSegment name)
    (hitems : ∀ item ∈ items, IsItem (scope names) item)
    (hline : GroupLine (scope names) items line) :
    pathsOf [line] = items.flatMap fun item => pathsOf [singleLine (scope names) item] := by
  rw [pathsOf_singleton_of_some (ofLine?_groupLine hnames hitems hline), paths,
    List.flatMap_congr fun item hitem => pathsOf_singleLine hnames (hitems item hitem),
    List.map_eq_flatMap]

end UseLine

end Oneshot
