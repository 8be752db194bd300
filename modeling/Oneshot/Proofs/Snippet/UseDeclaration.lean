import Mathlib.Data.Bool.AllAny
import Oneshot.Proofs.Snippet.Parts
import Oneshot.Proofs.Snippet.Respacing
import Oneshot.Proofs.Snippet.UseGroup

/-!
# Declarations in Use Lines

A use line is no place for a crate declaration, but nothing keeps the keyword out of it: the scan
knows no lines. So what is dropped from a use line, and what is written in its stead, has to be
compared with what the line declares.

Items are dropped if the prelude imports their paths. None of these paths holds an `x`, so neither
do the items nor the prefix of the line, and there is no keyword in them. The items that are left
are written with single spaces, and that is a matter of how the keyword was spaced in the line.

* `declares_nil_of_without_eq_none`: a line that is dropped declares nothing.
* `declares_of_without_eq_some`: what is written for a line declares what the line declares.
-/

namespace Oneshot

namespace UseLine

/-! ### The parts of a use line -/

/-- A use line, without the blanks around it, begins with the keyword and ends with a semicolon. -/
theorem exists_trim_of_ofLine? {line : Text} {u : UseLine} (h : ofLine? line = some u) :
    ∃ middle, Text.trim line = "use ".toList ++ (middle ++ [';']) ∧
      ofTree? (Text.trim middle) = some u := by
  rw [ofLine?] at h
  split at h
  · next huse =>
    obtain ⟨hstart, hlast⟩ : "use ".toList.isPrefixOf (Text.trim line) = true ∧
        (Text.trim line).getLast? = some ';' := by simpa using huse
    obtain ⟨content, hcontent⟩ := List.isPrefixOf_iff_prefix.1 hstart
    obtain ⟨middle, rfl⟩ : ∃ middle, content = middle ++ [';'] := by
      refine ⟨content.dropLast, ?_⟩
      rw [← hcontent, List.getLast?_append] at hlast
      cases hc : content.getLast? with
      | none => simp [List.getLast?_eq_none_iff.1 hc] at hlast
      | some c =>
        obtain rfl : c = ';' := by simpa [hc] using hlast
        exact (List.dropLast_append_getLast? _ hc).symm
    have htree : ((Text.trim line).drop 4).dropLast = middle := by
      rw [← hcontent]
      simp
    exact ⟨middle, hcontent.symm, htree ▸ h⟩
  · simp at h

/-- A use line is the tree of its paths between a keyword and a semicolon. -/
theorem exists_tree_of_ofLine? {line : Text} {u : UseLine} (h : ofLine? line = some u) :
    ∃ before tree after, line = before ++ (tree ++ after) ∧ ofTree? tree = some u ∧
      (∀ c ∈ before, isBlank c = true ∨ c ∈ "use".toList) ∧
      ∀ c ∈ after, isBlank c = true ∨ c = ';' := by
  obtain ⟨middle, hmiddle, htree⟩ := exists_trim_of_ofLine? h
  obtain ⟨outer, outer', hline, houter, houter'⟩ := Text.exists_trim line
  obtain ⟨inner, inner', hinner, hin, hin'⟩ := Text.exists_trim middle
  refine ⟨outer ++ ("use ".toList ++ inner), Text.trim middle, inner' ++ (';' :: outer'), ?_, htree,
    fun c hc => ?_, fun c hc => ?_⟩
  · calc
      line = outer ++ ("use ".toList ++ (middle ++ [';']) ++ outer') := by rw [← hmiddle, ← hline]
      _ = outer ++ ("use ".toList ++ ((inner ++ (Text.trim middle ++ inner')) ++ [';']) ++ outer')
          := by rw [← hinner]
      _ = _ := by simp only [List.append_assoc, List.singleton_append]
  · simp only [List.mem_append] at hc
    rcases hc with hc | hc | hc
    · exact .inl (houter c hc)
    · have hkeyword : ∀ c ∈ "use ".toList, isBlank c = true ∨ c ∈ "use".toList :=
        List.all_iff_forall_prop.1 (by decide)
      exact hkeyword c hc
    · exact .inl (hin c hc)
  · simp only [List.mem_append, List.mem_cons] at hc
    rcases hc with hc | hc | hc
    · exact .inl (hin' c hc)
    · exact .inr hc
    · exact .inl (houter' c hc)

/-- A tree is a prefix with a single item, or with a group of items in braces. -/
theorem ofTree?_cases {tree : Text} {u : UseLine} (h : ofTree? tree = some u) :
    (∃ leaf, tree = u.pathPrefix ++ leaf ∧ u.items = [Text.singleSpaced leaf]) ∨
      ∃ front inner, tree = front ++ '\x7b' :: (inner ++ ['\x7d']) ∧
        u.pathPrefix = Text.trim front ∧
        u.items =
          ((Text.splitAt ',' inner).map Text.singleSpaced).filter (fun item => !item.isEmpty) := by
  rw [ofTree?] at h
  split at h
  · left
    split at h
    · simp at h
    · split at h
      · next before leaf hcut =>
        obtain rfl := Option.some.inj h
        exact ⟨leaf, by simpa using Text.cutLast?_eq hcut, rfl⟩
      · obtain rfl := Option.some.inj h
        exact ⟨tree, rfl, rfl⟩
  · next hbrace =>
    right
    simp only at h
    split at h
    · next hlast =>
      split at h
      · simp at h
      · obtain rfl := Option.some.inj h
        refine ⟨_, _, ?_, rfl, rfl⟩
        have hne : tree.dropWhile (· != '\x7b') ≠ [] := by
          intro hnil
          simpa using (List.dropWhile_eq_nil_iff.1 hnil) '\x7b' (by simpa using hbrace)
        obtain ⟨c, group, hdrop⟩ := List.exists_cons_of_ne_nil hne
        obtain rfl : c = '\x7b' := by
          simpa [hdrop] using List.head?_dropWhile_not (· != '\x7b') tree
        rw [hdrop, List.drop_succ_cons, List.drop_zero] at hlast ⊢
        have hgroup : group.dropLast ++ ['\x7d'] = group := List.dropLast_append_getLast? _ hlast
        rw [hgroup, ← hdrop, List.takeWhile_append_dropWhile]
    · simp at h

/-- A letter of a use line stands in its prefix, in one of its items or in its keyword. -/
theorem mem_of_ofLine? {line : Text} {u : UseLine} (h : ofLine? line = some u) {c : Char}
    (hc : c ∈ line) (hblank : isBlank c = false)
    (hsign : c ∉ ['u', 's', 'e', '\x7b', ',', '\x7d', ';']) :
    c ∈ u.pathPrefix ∨ ∃ item ∈ u.items, c ∈ item := by
  obtain ⟨before, tree, after, rfl, htree, hbefore, hafter⟩ := exists_tree_of_ofLine? h
  have hspaced : ∀ {piece : Text}, c ∈ piece → c ∈ Text.singleSpaced piece := fun hpiece =>
    (Text.isBlank_or_mem_singleSpaced hpiece).resolve_left (by simp [hblank])
  have hmem : c ∈ tree := by
    simp only [List.mem_append] at hc
    rcases hc with hc | hc | hc
    · rcases hbefore c hc with hb | hb
      · simp [hb] at hblank
      · exact absurd hb fun hb => hsign (by revert hb; simp; tauto)
    · exact hc
    · rcases hafter c hc with hb | rfl
      · simp [hb] at hblank
      · simp at hsign
  rcases ofTree?_cases htree with ⟨leaf, rfl, hitems⟩ | ⟨front, inner, rfl, hstart, hitems⟩
  · rw [hitems]
    rcases List.mem_append.1 hmem with hmem | hmem
    · exact .inl hmem
    · exact .inr ⟨_, List.mem_singleton_self _, hspaced hmem⟩
  · simp only [List.mem_append, List.mem_cons, List.not_mem_nil, or_false] at hmem
    rcases hmem with hmem | rfl | hmem | rfl
    · rw [hstart]
      exact .inl ((Text.isBlank_or_mem_trim hmem).resolve_left (by simp [hblank]))
    · simp at hsign
    · rw [← Text.join_splitAt ',' inner] at hmem
      rcases Text.mem_of_mem_join hmem with hmem | ⟨piece, hpiece, hmem⟩
      · obtain rfl := List.mem_singleton.1 hmem
        simp at hsign
      · refine .inr ⟨Text.singleSpaced piece, ?_, hspaced hmem⟩
        rw [hitems, List.mem_filter]
        refine ⟨List.mem_map_of_mem hpiece, ?_⟩
        simpa using List.ne_nil_of_mem (hspaced hmem)
    · simp at hsign

/-- A letter that is not in the path of an item is neither in the prefix nor in the item. -/
theorem not_mem_of_not_mem_pathOfItem {pathPrefix item : Text} {c : Char}
    (hc : c ∉ pathOfItem pathPrefix item) (hsign : c ∉ [':', 's', 'e', 'l', 'f']) :
    c ∉ pathPrefix ∧ c ∉ item := by
  rw [pathOfItem] at hc
  split at hc
  · next hself =>
    obtain rfl : item = "self".toList := by simpa using hself
    refine ⟨fun hmem => hc ?_, fun hmem => hsign (by revert hmem; simp; tauto)⟩
    by_cases hend : [':', ':'] <:+ pathPrefix
    · obtain ⟨front, rfl⟩ := hend
      rw [Text.dropEnd_append]
      exact (List.mem_append.1 hmem).resolve_right fun h => hsign (by revert h; simp; tauto)
    · rwa [Text.dropEnd, if_neg (by simpa using hend)]
  · simpa [not_or] using hc

end UseLine

namespace Snippet

open UseLine

/-- The keyword of a crate declaration by default. -/
abbrev crateKeyword : Text :=
  pairKeyword "extern" "crate"

theorem crateKeyword_ne_nil : crateKeyword ≠ [] := by
  decide

theorem separates_crateKeyword {sep : Char} (h : sep ∈ ['\n', ',', '\x7b', '\x7d']) :
    Separates crateKeyword sep := by
  have hall : ∀ c ∈ ['\n', ',', '\x7b', '\x7d'], isWordChar c = false ∧ c ∉ crateKeyword :=
    List.all_iff_forall_prop.1 (by decide)
  exact ⟨(hall sep h).1, (hall sep h).2⟩

theorem isWord_extern : Text.IsWord "extern" :=
  ⟨by decide, List.all_iff_forall_prop.1 (by decide)⟩

theorem isWord_crate : Text.IsWord "crate" :=
  ⟨by decide, List.all_iff_forall_prop.1 (by decide)⟩

/-- Blanks at the start of a text are passed over. -/
theorem declares_blanks_iff {blanks s : Text} (hblanks : ∀ c ∈ blanks, isBlank c = true)
    {crates : List Text} :
    Declares crateKeyword false (blanks ++ s) crates ↔ Declares crateKeyword false s crates := by
  by_cases hne : blanks = []
  · rw [hne, List.nil_append]
  · exact declares_gap_iff isWord_extern ⟨hne, hblanks⟩

/-- **A part declares the same with single spaces**, if its keyword was spaced that way. -/
theorem Declares.singleSpaced {sep : Char} (hsep : Separates crateKeyword sep) {s : Text}
    (hspaced : KeywordSpaced "extern" "crate" s) {crates : List Text}
    (h : Declares crateKeyword false (s ++ [sep]) crates) :
    Declares crateKeyword false (Text.singleSpaced s ++ [sep]) crates := by
  have hlf : Separates crateKeyword '\n' := separates_crateKeyword (by simp)
  refine Declares.exchange crateKeyword_ne_nil hlf hsep ?_
  have hline := h.exchange crateKeyword_ne_nil hsep hlf
  have hblanks : ∀ c ∈ s.takeWhile isBlank, isBlank c = true := fun c hc =>
    List.mem_takeWhile_imp hc
  obtain ⟨rest, hs, hrest⟩ : ∃ rest, s = s.takeWhile isBlank ++ rest ∧
      ∀ c, rest.head? = some c → isBlank c = false := by
    refine ⟨s.dropWhile isBlank, List.takeWhile_append_dropWhile.symm, fun c hc => ?_⟩
    have := List.head?_dropWhile_not isBlank s
    rw [hc] at this
    simpa using this
  have hwords : Text.singleSpaced s = Text.singleSpaced rest := by
    rw [Text.singleSpaced, hs, words_append_of_isBlank hblanks, Text.singleSpaced]
  rw [hs, List.append_assoc, declares_blanks_iff hblanks] at hline
  rw [hwords]
  cases rest with
  | nil => exact hline
  | cons c rest =>
    have hpart : c :: rest <:+: s := ⟨s.takeWhile isBlank, [], by simpa using hs.symm⟩
    exact hline.respaced isWord_extern isWord_crate
      (respaced_singleSpaced (hrest c rfl) (hspaced.of_part hpart) isWord_crate)

/-! ### What is left of a use line -/

variable {imported : List Text} {line : Text}

/-- **A line that is dropped declares nothing**, if no path of the set holds an `x`. -/
theorem declares_nil_of_without_eq_none (himported : ∀ path ∈ imported, 'x' ∉ path)
    (h : without imported line = none) : Declares crateKeyword false (line ++ ['\n']) [] := by
  refine declares_nil_of_not_mem (c := 'x') (by decide) ?_ false
  cases hu : ofLine? line with
  | none => simp [without, hu] at h
  | some u =>
    rw [without_of_some imported hu] at h
    split at h
    · simp at h
    · next hlength =>
      have hnone : (u.remaining imported).items = [] := by
        by_contra hne
        rw [if_neg (by simpa using hne)] at h
        simp at h
      have hitem : ∀ item ∈ u.items, 'x' ∉ u.pathPrefix ∧ 'x' ∉ item := by
        intro item hitem
        have hpath : pathOfItem u.pathPrefix item ∈ imported := by
          simpa using List.filter_eq_nil_iff.1 hnone item hitem
        exact not_mem_of_not_mem_pathOfItem (himported _ hpath) (by decide)
      have hne : u.items ≠ [] := fun hnil => hlength (by rw [hnone, hnil])
      intro hx
      have hx : 'x' ∈ line := by simpa using hx
      rcases mem_of_ofLine? hu hx (by decide) (by decide) with hmem | ⟨item, hi, hmem⟩
      · obtain ⟨item, rest, hitems⟩ := List.exists_cons_of_ne_nil hne
        exact (hitem item (by simp [hitems])).1 hmem
      · exact (hitem item hi).2 hmem

/-- The items that are left of a group, as a choice among its pieces. -/
theorem items_remaining {u : UseLine} {inner : Text}
    (h : u.items =
      ((Text.splitAt ',' inner).map Text.singleSpaced).filter fun item => !item.isEmpty) :
    (u.remaining imported).items
      = (Text.splitAt ',' inner).filterMap fun piece =>
          Option.guard (fun item => !imported.elem (pathOfItem u.pathPrefix item) &&
            !item.isEmpty) (Text.singleSpaced piece) := by
  rw [remaining, h, List.filter_filter, ← List.filterMap_eq_filter, List.filterMap_map]
  rfl

/-- A line that loses an item has a prefix without an `x`. -/
theorem not_mem_pathPrefix_of_remaining_ne (himported : ∀ path ∈ imported, 'x' ∉ path) {u : UseLine}
    (h : u.remaining imported ≠ u) : 'x' ∉ u.pathPrefix := by
  by_contra hx
  refine h (congrArg (UseLine.mk u.pathPrefix) (List.filter_eq_self.2 fun item _ => ?_))
  have hpath : pathOfItem u.pathPrefix item ∉ imported := fun hmem =>
    (not_mem_of_not_mem_pathOfItem (himported _ hmem) (by decide)).1 hx
  simpa using hpath

/-- A line that is written anew had a group of items. -/
theorem exists_group_of_without {u : UseLine} (hu : ofLine? line = some u)
    (hne : u.remaining imported ≠ u) {entry : Text} (h : without imported line = some entry) :
    ∃ front inner back, line = front ++ '\x7b' :: (inner ++ '\x7d' :: back) ∧
      (∀ c ∈ front, isBlank c = true ∨ c ∈ "use".toList ∨ c ∈ u.pathPrefix) ∧
      (∀ c ∈ back, isBlank c = true ∨ c = ';') ∧
      u.items =
        ((Text.splitAt ',' inner).map Text.singleSpaced).filter fun item => !item.isEmpty := by
  obtain ⟨before, tree, after, rfl, htree, hbefore, hafter⟩ := exists_tree_of_ofLine? hu
  rcases ofTree?_cases htree with ⟨leaf, -, hitems⟩ | ⟨front, inner, rfl, hstart, hitems⟩
  · -- of a single item, all or nothing is left
    rw [without_of_some imported hu] at h
    have hsub : (u.remaining imported).items.Sublist u.items := List.filter_sublist
    split at h
    · next hlength =>
      exact absurd (congrArg (UseLine.mk u.pathPrefix) (hsub.eq_of_length hlength)) hne
    · next hlength =>
      have hle := hsub.length_le
      rw [hitems, List.length_singleton] at hle hlength
      have hnil : (u.remaining imported).items = [] := List.length_eq_zero_iff.1 (by omega)
      simp [hnil] at h
  · refine ⟨before ++ front, inner, after, by simp, fun c hc => ?_, hafter, hitems⟩
    rcases List.mem_append.1 hc with hc | hc
    · exact (hbefore c hc).imp_right .inl
    · rw [hstart]
      exact (Text.isBlank_or_mem_trim hc).imp_right .inr

/-- Around a group without an `x`, nothing is declared. -/
theorem declares_braces_iff {front inner back : Text} (hfront : 'x' ∉ front) (hback : 'x' ∉ back)
    {crates : List Text} :
    Declares crateKeyword false (front ++ '\x7b' :: (inner ++ '\x7d' :: back)) crates ↔
      Declares crateKeyword false (inner ++ ['\x7d']) crates := by
  have hopen : Separates crateKeyword '\x7b' := separates_crateKeyword (by simp)
  have hclose : Separates crateKeyword '\x7d' := separates_crateKeyword (by simp)
  have hnone : ∀ {s : Text}, 'x' ∉ s → Declares crateKeyword false s [] := fun hs =>
    declares_nil_of_not_mem (c := 'x') (by decide) hs false
  have hfront_nil := hnone (s := front ++ ['\x7b']) (by simpa using hfront)
  rw [hfront_nil.append_iff crateKeyword_ne_nil hopen]
  constructor
  · rintro ⟨rest, rfl, hrest⟩
    obtain ⟨first, second, rfl, hfirst, hsecond⟩ :=
      hrest.split crateKeyword_ne_nil hclose (by decide)
    obtain rfl : second = [] := hsecond.unique crateKeyword_ne_nil (hnone hback)
    simpa using hfirst
  · intro h
    exact ⟨crates, rfl, by simpa using h.append crateKeyword_ne_nil hclose hclose (hnone hback)⟩

/-- A piece whose item is dropped declares nothing. -/
theorem declares_nil_of_dropped (himported : ∀ path ∈ imported, 'x' ∉ path)
    {pathPrefix piece : Text}
    (h : Option.guard (fun item => !imported.elem (pathOfItem pathPrefix item) && !item.isEmpty)
      (Text.singleSpaced piece) = none) : Declares crateKeyword false (piece ++ ['\x7d']) [] := by
  refine declares_nil_of_not_mem (c := 'x') (by decide) (fun hx => ?_) false
  have hx : 'x' ∈ piece := by simpa using hx
  have hitem : 'x' ∈ Text.singleSpaced piece :=
    (Text.isBlank_or_mem_singleSpaced hx).resolve_left (by decide)
  have hpath : pathOfItem pathPrefix (Text.singleSpaced piece) ∈ imported := by
    by_contra hpath
    simp [Option.guard, hpath, List.ne_nil_of_mem hitem] at h
  exact (not_mem_of_not_mem_pathOfItem (himported _ hpath) (by decide)).2 hitem

/-- The items that are left declare what the pieces of the group declare. -/
theorem declaresEach_remaining (himported : ∀ path ∈ imported, 'x' ∉ path) {u : UseLine}
    {inner : Text} (hitems : u.items =
      ((Text.splitAt ',' inner).map Text.singleSpaced).filter fun item => !item.isEmpty)
    (hspaced : KeywordSpaced "extern" "crate" inner) {crates : List Text}
    (h : DeclaresEach crateKeyword '\x7d' (Text.splitAt ',' inner) crates) :
    DeclaresEach crateKeyword '\x7d' (u.remaining imported).items crates := by
  rw [items_remaining hitems]
  refine h.filterMap (fun piece _ names hnames hdropped => ?_)
    fun piece hpiece names hnames item hitem => ?_
  · exact hnames.unique crateKeyword_ne_nil (declares_nil_of_dropped himported hdropped)
  · obtain ⟨rfl, -⟩ := Option.guard_eq_some_iff.1 hitem
    exact hnames.singleSpaced (separates_crateKeyword (by simp))
      (hspaced.of_part (Text.isInfix_of_mem_splitAt hpiece))

theorem render_remaining (u : UseLine) :
    render (u.remaining imported) ++ ['\n'] = "use ".toList ++ u.pathPrefix ++ '\x7b' ::
      (Text.join [',', ' '] (u.remaining imported).items ++ '\x7d' :: [';', '\n']) := by
  rw [render_eq, tree]
  simp [remaining]

/-- What is written anew for a line declares what the line declares. -/
theorem declares_render_remaining (himported : ∀ path ∈ imported, 'x' ∉ path) {u : UseLine}
    (hu : ofLine? line = some u) (hne : u.remaining imported ≠ u)
    (h : without imported line = some (render (u.remaining imported)))
    (hspaced : KeywordSpaced "extern" "crate" line)
    {crates : List Text} (hline : Declares crateKeyword false (line ++ ['\n']) crates) :
    Declares crateKeyword false (render (u.remaining imported) ++ ['\n']) crates := by
  have hstart := not_mem_pathPrefix_of_remaining_ne himported hne
  obtain ⟨front, inner, back, rfl, hfront, hback, hitems⟩ := exists_group_of_without hu hne h
  have hclose : Separates crateKeyword '\x7d' := separates_crateKeyword (by simp)
  have hcomma : Separates crateKeyword ',' := separates_crateKeyword (by simp)
  have hpart : inner <:+: front ++ '\x7b' :: (inner ++ '\x7d' :: back) :=
    ⟨front ++ ['\x7b'], '\x7d' :: back, by simp⟩
  have hfront_x : 'x' ∉ front := fun hx => by
    rcases hfront 'x' hx with hx | hx | hx
    · exact absurd hx (by decide)
    · exact absurd hx (by decide)
    · exact hstart hx
  have hback_x : 'x' ∉ back ++ ['\n'] := fun hx => by
    have hx : 'x' ∈ back := by simpa using hx
    exact absurd (hback 'x' hx) (by decide)
  have huse_x : 'x' ∉ "use ".toList ++ u.pathPrefix := fun hx =>
    (List.mem_append.1 hx).elim (by decide) hstart
  rw [List.append_assoc, List.cons_append, List.append_assoc, List.cons_append,
    declares_braces_iff hfront_x hback_x, ← Text.join_splitAt ',' inner] at hline
  have hpieces := DeclaresEach.of_join crateKeyword_ne_nil hcomma hclose
    (Text.splitAt_ne_nil ',' inner) hline
  have hgroup := declaresEach_remaining himported hitems (hspaced.of_part hpart) hpieces
  rw [render_remaining, declares_braces_iff huse_x (by decide)]
  exact hgroup.join crateKeyword_ne_nil hcomma hclose (by decide)

/-- **What is written for a line declares what the line declares**, if no path of the set holds an
`x` and the keyword is spaced by single spaces in a line that is written anew. -/
theorem declares_of_without_eq_some (himported : ∀ path ∈ imported, 'x' ∉ path) {entry : Text}
    (h : without imported line = some entry)
    (hspaced : without imported line ≠ some line → KeywordSpaced "extern" "crate" line)
    {crates : List Text} (hline : Declares crateKeyword false (line ++ ['\n']) crates) :
    Declares crateKeyword false (entry ++ ['\n']) crates := by
  by_cases hsame : without imported line = some line
  · obtain rfl := Option.some.inj (hsame.symm.trans h)
    exact hline
  cases hu : ofLine? line with
  | none => exact absurd (by rw [without, hu]) hsame
  | some u =>
    rcases without_cases imported hu with ⟨-, hw⟩ | ⟨hne, ⟨-, hw⟩ | ⟨-, hw⟩⟩
    · exact absurd hw hsame
    · simp [hw] at h
    · obtain rfl := Option.some.inj (hw.symm.trans h)
      exact declares_render_remaining himported hu hne h (hspaced hsame) hline

end Snippet

end Oneshot
