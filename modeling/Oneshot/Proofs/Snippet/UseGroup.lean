import Oneshot.Proofs.Text.Spacing
import Oneshot.Snippet.UseLine

/-!
# Use Groups

A use line whose items are imported in part by the prelude is written anew, as a group of the items
that are left. The new line has a layout of its own, so that nothing but its reading can say that it
imports what it should. A group that has been read is in a form (`IsGroup`) in which it is read back
from its rendering as it is, and every part of its items is in that form as well.

## Main results

* `ofLine?_render`: a group is read back from its rendering.
* `isGroup_of_ofLine?`: what is read from a line is a group or a single item.
* `pathsOf_without`: the line that is left imports the paths that are not in the set, in their
  order, and no others.
-/

namespace Oneshot

namespace Text

/-- A space in front of a text changes nothing of the spacing of its pieces. -/
theorem map_singleSpaced_splitAt_space {sep : Char} (h : ' ' ≠ sep) (s : Text) :
    (splitAt sep (' ' :: s)).map singleSpaced = (splitAt sep s).map singleSpaced := by
  obtain ⟨piece, pieces, hs, hcons⟩ := splitAt_cons_of_ne h s
  rw [hs, hcons, List.map_cons, List.map_cons, singleSpaced_cons_of_isBlank (by decide)]

end Text

namespace UseLine

/-- A use line in the form in which groups are read: no blanks around the prefix, single spaces
inside the items, no empty item, and no brace or comma where it would be misread. -/
structure IsGroup (u : UseLine) : Prop where
  pathPrefix_trimmed : Text.Trimmed u.pathPrefix
  brace_not_mem_pathPrefix : '\x7b' ∉ u.pathPrefix
  item_ne_nil : ∀ item ∈ u.items, item ≠ []
  singleSpaced_item : ∀ item ∈ u.items, Text.singleSpaced item = item
  comma_not_mem_item : ∀ item ∈ u.items, ',' ∉ item
  brace_not_mem_item : ∀ item ∈ u.items, '\x7b' ∉ item ∧ '\x7d' ∉ item

/-- A part of the items is a group again. -/
theorem IsGroup.of_subset {u : UseLine} (h : u.IsGroup) {items : List Text}
    (hitems : ∀ item ∈ items, item ∈ u.items) : IsGroup ⟨u.pathPrefix, items⟩ where
  pathPrefix_trimmed := h.pathPrefix_trimmed
  brace_not_mem_pathPrefix := h.brace_not_mem_pathPrefix
  item_ne_nil item hi := h.item_ne_nil item (hitems item hi)
  singleSpaced_item item hi := h.singleSpaced_item item (hitems item hi)
  comma_not_mem_item item hi := h.comma_not_mem_item item (hitems item hi)
  brace_not_mem_item item hi := h.brace_not_mem_item item (hitems item hi)

/-! ### Reading a rendering -/

/-- The items of a group are read back from the text that joins them. -/
theorem items_of_join {items : List Text} (hne : ∀ item ∈ items, item ≠ [])
    (hspaced : ∀ item ∈ items, Text.singleSpaced item = item)
    (hcomma : ∀ item ∈ items, ',' ∉ item) :
    ((Text.splitAt ',' (Text.join [',', ' '] items)).map Text.singleSpaced).filter
      (fun item => !item.isEmpty) = items := by
  induction items with
  | nil => rfl
  | cons item items ih =>
    have hspaced' : ∀ other ∈ items, Text.singleSpaced other = other := fun other ho =>
      hspaced other (List.mem_cons_of_mem item ho)
    have hne' : ∀ other ∈ items, other ≠ [] := fun other ho =>
      hne other (List.mem_cons_of_mem item ho)
    have hcomma' : ∀ other ∈ items, ',' ∉ other := fun other ho =>
      hcomma other (List.mem_cons_of_mem item ho)
    have hitem : (!item.isEmpty) = true := by simpa using hne item (by simp)
    cases items with
    | nil =>
      rw [Text.join, Text.splitAt_of_not_mem (hcomma item (by simp))]
      simp [hspaced item (by simp), hitem]
    | cons next rest =>
      have hrest := ih hne' hspaced' hcomma'
      rw [Text.join, List.append_assoc, List.cons_append, List.cons_append, List.nil_append,
        Text.splitAt_append (hcomma item (by simp)), List.map_cons,
        Text.map_singleSpaced_splitAt_space (by decide), hspaced item (by simp), List.filter_cons,
        if_pos hitem, hrest]

/-- What stands between `use ` and the semicolon in the rendering of a group. -/
def tree (u : UseLine) : Text :=
  u.pathPrefix ++ '\x7b' :: (Text.join [',', ' '] u.items ++ ['\x7d'])

theorem render_eq (u : UseLine) : render u = "use ".toList ++ (u.tree ++ [';']) := by
  have hrender : render u = "use ".toList ++ u.pathPrefix ++ ['\x7b']
      ++ Text.join [',', ' '] u.items ++ ['\x7d', ';'] := rfl
  rw [hrender, tree]
  simp only [List.append_assoc, List.cons_append, List.nil_append]

theorem IsGroup.brace_not_mem_join {u : UseLine} (h : u.IsGroup) {c : Char}
    (hc : c = '\x7b' ∨ c = '\x7d') : c ∉ Text.join [',', ' '] u.items := by
  intro hmem
  rcases Text.mem_of_mem_join hmem with hsep | ⟨item, hitem, hmem⟩
  · rcases hc with rfl | rfl <;> simp at hsep
  · obtain ⟨hopen, hclose⟩ := h.brace_not_mem_item item hitem
    rcases hc with rfl | rfl
    · exact hopen hmem
    · exact hclose hmem

/-- A group in braces is read as the pieces between its commas, each with single spaces. -/
theorem ofTree?_braces {front inner : Text} (hfront : '\x7b' ∉ front) (hopen : '\x7b' ∉ inner)
    (hclose : '\x7d' ∉ inner) :
    ofTree? (front ++ '\x7b' :: (inner ++ ['\x7d'])) = some ⟨Text.trim front,
      ((Text.splitAt ',' inner).map Text.singleSpaced).filter fun item => !item.isEmpty⟩ := by
  have hprefix : ∀ c ∈ front, (c != '\x7b') = true := fun c hc => by
    simpa using fun e : c = '\x7b' => hfront (e ▸ hc)
  have htake : (front ++ '\x7b' :: (inner ++ ['\x7d'])).takeWhile (· != '\x7b') = front := by
    rw [List.takeWhile_append_of_pos hprefix]
    simp
  have hdrop : (front ++ '\x7b' :: (inner ++ ['\x7d'])).dropWhile (· != '\x7b')
      = '\x7b' :: (inner ++ ['\x7d']) := by
    rw [List.dropWhile_append_of_pos hprefix]
    simp
  rw [ofTree?, if_neg (by simp)]
  simp only [htake, hdrop, List.drop_succ_cons, List.drop_zero, List.getLast?_concat,
    List.dropLast_concat]
  rw [if_neg (by simp [hopen, hclose])]

theorem ofTree?_tree {u : UseLine} (h : u.IsGroup) : ofTree? u.tree = some u := by
  rw [tree, ofTree?_braces h.brace_not_mem_pathPrefix (h.brace_not_mem_join (.inl rfl))
    (h.brace_not_mem_join (.inr rfl)), Text.trim_eq_self h.pathPrefix_trimmed,
    items_of_join h.item_ne_nil h.singleSpaced_item h.comma_not_mem_item]

theorem trimmed_braces {front : Text} (hfront : Text.Trimmed front) (inner : Text) :
    Text.Trimmed (front ++ '\x7b' :: (inner ++ ['\x7d'])) := by
  refine hfront.append ⟨fun c hc => ?_, fun c hc => ?_⟩
  · obtain rfl : '\x7b' = c := by simpa using hc
    decide
  · obtain rfl : '\x7d' = c := by simpa [List.getLast?_cons] using hc
    decide

/-- A line is read as its tree, whatever blanks stand around the tree and around the line. -/
theorem ofLine?_padded {before gap tree gap' after : Text} (hbefore : Text.Blank before)
    (hgap : Text.Blank gap) (htree : Text.Trimmed tree) (hgap' : Text.Blank gap')
    (hafter : Text.Blank after) :
    ofLine? (before ++ ("use ".toList ++ (gap ++ (tree ++ gap')) ++ [';'] ++ after))
      = ofTree? tree := by
  have htrimmed : Text.Trimmed ("use ".toList ++ (gap ++ (tree ++ gap')) ++ [';']) := by
    refine ⟨fun c hc => ?_, fun c hc => ?_⟩
    · obtain rfl : 'u' = c := by simpa using hc
      decide
    · rw [List.getLast?_concat] at hc
      obtain rfl := Option.some.inj hc
      decide
  have hcontent :
      Text.trim (((("use ".toList ++ (gap ++ (tree ++ gap'))) ++ [';']).drop 4).dropLast)
        = tree := by
    have hdrop : ("use ".toList ++ (gap ++ (tree ++ gap')) ++ [';']).drop 4
        = gap ++ (tree ++ gap') ++ [';'] := by
      rw [List.append_assoc]
      rfl
    rw [hdrop, List.dropLast_concat, Text.trim_padded hgap htree hgap']
  rw [ofLine?, Text.trim_padded hbefore htrimmed hafter]
  simp only [hcontent]
  rw [if_pos]
  rw [List.getLast?_concat, List.append_assoc]
  simp

/-- **A group is read back from its rendering.** -/
theorem ofLine?_render {u : UseLine} (h : u.IsGroup) : ofLine? (render u) = some u := by
  have hblank : Text.Blank [] := by simp [Text.Blank]
  have htrimmed : Text.Trimmed u.tree := trimmed_braces h.pathPrefix_trimmed _
  rw [← ofTree?_tree h, ← ofLine?_padded hblank hblank htrimmed hblank hblank, render_eq]
  simp

/-! ### What is read -/

/-- A trimmed prefix with the single-spaced pieces of a text is a group, if neither holds a brace.
-/
theorem isGroup_of_pieces {front inner : Text} (hfront : '\x7b' ∉ front) (hopen : '\x7b' ∉ inner)
    (hclose : '\x7d' ∉ inner) :
    IsGroup ⟨Text.trim front,
      ((Text.splitAt ',' inner).map Text.singleSpaced).filter fun item => !item.isEmpty⟩ := by
  have hpiece : ∀ item ∈ ((Text.splitAt ',' inner).map Text.singleSpaced).filter
      (fun item => !item.isEmpty), item ≠ [] ∧ Text.singleSpaced item = item ∧ ',' ∉ item ∧
        ∀ c ∈ item, c = ' ' ∨ c ∈ inner := by
    intro item hitem
    obtain ⟨hmem, hne⟩ := List.mem_filter.1 hitem
    obtain ⟨piece, hpiece, rfl⟩ := List.mem_map.1 hmem
    have hcomma := Text.not_mem_of_mem_splitAt hpiece
    have hinner := (Text.isInfix_of_mem_splitAt hpiece).subset
    refine ⟨by simpa using hne, Text.singleSpaced_singleSpaced piece, fun hc => ?_, fun c hc => ?_⟩
    · rcases Text.mem_of_mem_singleSpaced hc with hc | hc
      · simp at hc
      · exact hcomma hc
    · exact (Text.mem_of_mem_singleSpaced hc).imp_right (hinner ·)
  have hbrace : ∀ item ∈ ((Text.splitAt ',' inner).map Text.singleSpaced).filter
      (fun item => !item.isEmpty), ∀ c, c ≠ ' ' → c ∉ inner → c ∉ item :=
    fun item hitem c hspace hinner hc => ((hpiece item hitem).2.2.2 c hc).elim hspace hinner
  exact {
    pathPrefix_trimmed := Text.trimmed_trim front
    brace_not_mem_pathPrefix := fun h => hfront (Text.mem_of_mem_trim h)
    item_ne_nil := fun item hitem => (hpiece item hitem).1
    singleSpaced_item := fun item hitem => (hpiece item hitem).2.1
    comma_not_mem_item := fun item hitem => (hpiece item hitem).2.2.1
    brace_not_mem_item := fun item hitem =>
      ⟨hbrace item hitem _ (by decide) hopen, hbrace item hitem _ (by decide) hclose⟩ }

theorem isGroup_of_ofTree? {tree : Text} {u : UseLine} (h : ofTree? tree = some u) :
    (∃ item, u.items = [item]) ∨ u.IsGroup := by
  rw [ofTree?] at h
  split at h
  · -- without a brace there is a single item
    left
    split at h
    · simp at h
    · split at h <;> obtain rfl := Option.some.inj h <;> exact ⟨_, rfl⟩
  · right
    simp only at h
    split at h
    · next hlast =>
      split at h
      · simp at h
      · next hbraces =>
        obtain rfl := Option.some.inj h
        simp only [Bool.or_eq_true, List.contains_iff_mem, not_or] at hbraces
        refine isGroup_of_pieces (fun hmem => ?_) hbraces.1 hbraces.2
        simpa using List.mem_takeWhile_imp hmem
    · simp at h

theorem isGroup_of_ofLine? {line : Text} {u : UseLine} (h : ofLine? line = some u) :
    (∃ item, u.items = [item]) ∨ u.IsGroup := by
  rw [ofLine?] at h
  split at h
  · exact isGroup_of_ofTree? h
  · simp at h

/-! ### What is left of a line -/

theorem ofLine?_congr_trim {line line' : Text} (h : Text.trim line = Text.trim line') :
    ofLine? line = ofLine? line' := by
  rw [ofLine?, ofLine?, h]

@[simp] theorem pathsOf_nil : pathsOf [] = [] := rfl

theorem pathsOf_append (lines lines' : List Text) :
    pathsOf (lines ++ lines') = pathsOf lines ++ pathsOf lines' :=
  List.flatMap_append

theorem pathsOf_cons (line : Text) (lines : List Text) :
    pathsOf (line :: lines) = pathsOf [line] ++ pathsOf lines :=
  pathsOf_append [line] lines

theorem mem_pathsOf {path : Text} {lines : List Text} :
    path ∈ pathsOf lines ↔ ∃ line ∈ lines, path ∈ pathsOf [line] := by
  simp [pathsOf]

theorem pathsOf_singleton_of_none {line : Text} (h : ofLine? line = none) :
    pathsOf [line] = [] := by
  simp [pathsOf, h]

theorem pathsOf_singleton_of_some {line : Text} {u : UseLine} (h : ofLine? line = some u) :
    pathsOf [line] = u.paths := by
  simp [pathsOf, h]

/-- The use line of the items whose paths are not in the set. -/
def remaining (imported : List Text) (u : UseLine) : UseLine :=
  ⟨u.pathPrefix, u.items.filter fun item => !imported.elem (pathOfItem u.pathPrefix item)⟩

/-- The items that are left import the paths that are left. -/
theorem paths_remaining (imported : List Text) (u : UseLine) :
    (u.remaining imported).paths = u.paths.filter fun path => !imported.elem path := by
  rw [paths, paths, List.filter_map]
  rfl

theorem without_of_some (imported : List Text) {line : Text} {u : UseLine}
    (h : ofLine? line = some u) :
    without imported line
      = if (u.remaining imported).items.length = u.items.length then some line
        else if (u.remaining imported).items.isEmpty then none
        else some (render (u.remaining imported)) := by
  rw [without, h]
  rfl

/-- A line that loses items is dropped, or becomes the rendering of a group of the others. -/
theorem without_cases (imported : List Text) {line : Text} {u : UseLine}
    (h : ofLine? line = some u) :
    (u.remaining imported = u ∧ without imported line = some line) ∨
      u.remaining imported ≠ u ∧
        (((u.remaining imported).items = [] ∧ without imported line = none) ∨
          ((u.remaining imported).IsGroup ∧
            without imported line = some (render (u.remaining imported)))) := by
  have hsub : (u.remaining imported).items.Sublist u.items := List.filter_sublist
  rw [without_of_some imported h]
  by_cases hall : (u.remaining imported).items.length = u.items.length
  · left
    exact ⟨congrArg (UseLine.mk u.pathPrefix) (hsub.eq_of_length hall), if_pos hall⟩
  · right
    refine ⟨fun hu => hall (by rw [hu]), ?_⟩
    rw [if_neg hall]
    by_cases hnone : (u.remaining imported).items = []
    · left
      exact ⟨hnone, if_pos (List.isEmpty_iff.2 hnone)⟩
    · right
      refine ⟨?_, if_neg fun he => hnone (List.isEmpty_iff.1 he)⟩
      rcases isGroup_of_ofLine? h with ⟨item, hitem⟩ | hgroup
      · -- of a single item, all or nothing is left
        have hle := hsub.length_le
        have hpos := List.length_pos_iff.2 hnone
        rw [hitem, List.length_singleton] at hle hall
        omega
      · exact hgroup.of_subset fun item hi => hsub.subset hi

/-- **What is left of a line imports the paths that are not in the set**, in their order, and no
others. -/
theorem pathsOf_without (imported : List Text) (line : Text) :
    pathsOf (without imported line).toList
      = (pathsOf [line]).filter fun path => !imported.elem path := by
  cases h : ofLine? line with
  | none =>
    rw [without, h]
    simp [pathsOf_singleton_of_none h]
  | some u =>
    rw [pathsOf_singleton_of_some h, ← paths_remaining]
    rcases without_cases imported h with ⟨hu, hw⟩ | ⟨-, ⟨hu, hw⟩ | ⟨hu, hw⟩⟩
    · rw [hw, hu, Option.toList_some, pathsOf_singleton_of_some h]
    · simp [hw, paths, hu]
    · rw [hw, Option.toList_some, pathsOf_singleton_of_some (ofLine?_render hu)]

end UseLine

end Oneshot
