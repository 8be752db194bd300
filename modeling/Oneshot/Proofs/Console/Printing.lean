import Oneshot.Console.Log
import Oneshot.Proofs.Text.Lines
import Oneshot.Proofs.Text.Spacing

/-!
# Messages in Print

A message of one style is printed line by line. What is printed has the lines of the message: the
control characters that are removed, the blanks in place of tabs and the escape sequences of a style
neither add an LF nor take one away. So a message is printed as a single line exactly if it holds
no LF, whatever device it is for. Only a plain device can show a message as it is, and it does so
exactly if there is nothing to be removed and no tab in it.

* `render_eq_ended`: a message is printed line by line.
* `mem_expanded`, `mem_renderLine_plain`: what a printed line holds.
* `count_lf_render`, `count_lf_messageText`: the lines of what is printed.
* `render_plain_eq_iff`, `messageText_plain_eq_iff`: the messages that are printed as they are.
-/

namespace Oneshot

namespace Text

/-- Each of some lines has one LF, the one behind it. -/
theorem count_lf_ended {lines : List Text} (h : ∀ line ∈ lines, '\n' ∉ line) :
    (ended lines).count '\n' = lines.length := by
  induction lines with
  | nil => rfl
  | cons line lines ih =>
    have hline : line.count '\n' = 0 := List.count_eq_zero.2 (h line List.mem_cons_self)
    rw [ended_cons, List.count_append, List.count_cons_self, hline, List.length_cons,
      ih fun other ho => h other (List.mem_cons_of_mem line ho)]
    omega

theorem mem_ended {c : Char} {lines : List Text} (h : c ∈ ended lines) :
    c = '\n' ∨ ∃ line ∈ lines, c ∈ line := by
  obtain ⟨line, hline, hc⟩ := List.mem_flatMap.1 h
  rcases List.mem_append.1 hc with hc | hc
  · exact .inr ⟨line, hline, hc⟩
  · exact .inl (List.mem_singleton.1 hc)

end Text

namespace Console

variable {c : Char} {s part : Text} {style : Style} {rendering : Rendering}

/-! ### Lines -/

/-- A piece has the lines of its text. -/
theorem linesOf_singleton (s : Text) (style : Style) :
    linesOf [⟨s, style⟩] = (Text.splitAt '\n' s).map fun line => [⟨line, style⟩] := by
  obtain ⟨front, last, hsplit⟩ :=
    (List.eq_nil_or_concat' (Text.splitAt '\n' s)).resolve_left (Text.splitAt_ne_nil '\n' s)
  simp [linesOf, hsplit]

/-- **A message is printed line by line**, each line with an LF behind it. -/
theorem render_eq_ended (rendering : Rendering) (s : Text) (style : Style) :
    render rendering [⟨s, style⟩]
      = Text.ended ((Text.splitAt '\n' (clean s)).map fun line =>
          renderLine rendering [⟨line, style⟩]) := by
  have hne : (Text.splitAt '\n' (clean s)).map (fun line => renderLine rendering [⟨line, style⟩])
      ≠ [] := by
    simpa using Text.splitAt_ne_nil '\n' (clean s)
  rw [← Text.join_lf_append hne]
  simp only [render, List.map_cons, List.map_nil, linesOf_singleton, List.map_map,
    Function.comp_def]

/-! ### Tabs -/

/-- A tab ends its part. -/
theorem mem_of_mem_tabParts (h : part ∈ tabParts s) :
    part ≠ [] ∧ '\t' ∉ part.dropLast ∧ ∀ c ∈ part, c ∈ s := by
  induction s generalizing part with
  | nil => simp [tabParts] at h
  | cons c s ih =>
    have hlater : part ∈ tabParts s → part ≠ [] ∧ '\t' ∉ part.dropLast ∧ ∀ d ∈ part, d ∈ c :: s :=
      fun hpart => (ih hpart).imp_right (And.imp_right fun hsub d hd =>
        List.mem_cons_of_mem c (hsub d hd))
    by_cases hc : c = '\t'
    · rw [tabParts, if_pos hc] at h
      rcases List.mem_cons.1 h with rfl | h
      · simp
      · exact hlater h
    · rw [tabParts, if_neg hc] at h
      cases hparts : tabParts s with
      | nil =>
        rw [hparts] at h
        obtain rfl := List.mem_singleton.1 h
        simp
      | cons first parts =>
        rw [hparts] at h
        rcases List.mem_cons.1 h with rfl | h
        · obtain ⟨hne, htab, hsub⟩ := ih (hparts ▸ List.mem_cons_self)
          rw [List.dropLast_cons_of_ne_nil hne]
          refine ⟨by simp, by simpa [htab] using Ne.symm hc, fun d hd => ?_⟩
          exact (List.mem_cons.1 hd).elim (· ▸ List.mem_cons_self) fun hd =>
            List.mem_cons_of_mem c (hsub d hd)
        · exact hlater (hparts ▸ List.mem_cons_of_mem first h)

/-- What becomes of a piece on a line: each of its characters is one of the original or a blank, and
a tab is none that has ended the original. -/
structure ExpandedFrom (original piece : Piece) : Prop where
  style_eq : piece.style = original.style
  mem_text : ∀ c ∈ piece.text,
    c = ' ' ∨ c ∈ original.text ∧ (c = '\t' → '\t' ∈ original.text.dropLast)

theorem exists_expandedFrom {column : Nat} {pieces : List Piece} {piece : Piece}
    (h : piece ∈ expandTabs column part pieces) :
    ∃ original ∈ pieces, ExpandedFrom original piece := by
  fun_induction expandTabs column part pieces with
  | case1 => simp at h
  | case2 column part original rest hlast text reached missing ih =>
    rcases List.mem_cons.1 h with rfl | h
    · refine ⟨original, List.mem_cons_self, rfl, fun c hc => ?_⟩
      rcases List.mem_append.1 hc with hc | hc
      · rcases List.mem_append.1 hc with hc | hc
        · exact .inr ⟨List.mem_of_mem_dropLast hc, fun htab => htab ▸ hc⟩
        · exact .inl (List.mem_singleton.1 hc)
      · exact .inl (List.eq_of_mem_replicate hc)
    · obtain ⟨original', hmem, hfrom⟩ := ih h
      exact ⟨original', List.mem_cons_of_mem original hmem, hfrom⟩
  | case3 column part original rest hlast ih =>
    rcases List.mem_cons.1 h with rfl | h
    · refine ⟨piece, List.mem_cons_self, rfl, fun c hc => .inr ⟨hc, ?_⟩⟩
      rintro rfl
      obtain ⟨front, last, htext⟩ := (List.eq_nil_or_concat' piece.text).resolve_left
        (List.ne_nil_of_mem hc)
      rw [htext, List.getLast?_concat] at hlast
      rw [htext] at hc
      rw [htext, List.dropLast_concat]
      exact (List.mem_append.1 hc).resolve_right fun hc =>
        hlast (congrArg some (List.mem_singleton.1 hc).symm)
    · obtain ⟨original', hmem, hfrom⟩ := ih h
      exact ⟨original', List.mem_cons_of_mem original hmem, hfrom⟩

/-- **A printed piece of a line** has its style, no tabs, and no characters but blanks and those of
the line. -/
theorem mem_expanded {piece : Piece} (h : piece ∈ expandTabs 0 [] (cutAtTabs [⟨s, style⟩])) :
    piece.style = style ∧ '\t' ∉ piece.text ∧ ∀ c ∈ piece.text, c = ' ' ∨ c ∈ s := by
  obtain ⟨original, horiginal, hfrom⟩ := exists_expandedFrom h
  obtain ⟨part, hpart, rfl⟩ : ∃ part ∈ tabParts s, ⟨part, style⟩ = original := by
    simpa [cutAtTabs] using horiginal
  obtain ⟨-, htab, hsub⟩ := mem_of_mem_tabParts hpart
  refine ⟨hfrom.style_eq, fun hmem => ?_, fun c hc => ?_⟩
  · obtain hblank | ⟨-, hlast⟩ := hfrom.mem_text '\t' hmem
    · simp at hblank
    · exact htab (hlast rfl)
  · exact (hfrom.mem_text c hc).imp_right fun hc => hsub c hc.1

/-! ### Printed lines -/

/-- The codes of a style are written without LF. -/
theorem lf_not_mem_codes (style : Style) :
    '\n' ∉ Text.join [';'] (style.codes.map Text.ofNat) := by
  obtain ⟨bold, dim, color⟩ := style
  cases bold <;> cases dim <;> cases color with
  | none => decide +kernel
  | some color => cases color <;> decide +kernel

theorem lf_not_mem_paint (rendering : Rendering) (style : Style) (h : '\n' ∉ s) :
    '\n' ∉ paint rendering style s := by
  have hcodes : ∀ codes : List Nat, '\n' ∉ Text.join [';'] (codes.map Text.ofNat) →
      '\n' ∉ if codes.isEmpty || s.isEmpty then s
        else ['\x1b', '['] ++ Text.join [';'] (codes.map Text.ofNat) ++ ['m'] ++ s
          ++ ['\x1b', '[', '0', 'm'] := by
    intro codes hcodes
    split
    · exact h
    · simp [h, hcodes]
  cases rendering with
  | plain => rwa [paint_plain]
  | monochrome => exact hcodes _ (lf_not_mem_codes _)
  | color => exact hcodes _ (lf_not_mem_codes _)

/-- A line is printed as a line. -/
theorem lf_not_mem_renderLine (rendering : Rendering) (style : Style) (h : '\n' ∉ s) :
    '\n' ∉ renderLine rendering [⟨s, style⟩] := by
  intro hmem
  obtain ⟨piece, hpiece, hmem⟩ := List.mem_flatMap.1 hmem
  obtain ⟨-, -, hsub⟩ := mem_expanded hpiece
  refine lf_not_mem_paint rendering piece.style (fun hlf => ?_) hmem
  exact (hsub _ hlf).elim (by simp) h

/-- A plain line holds no tab, and no character but blanks and those of the line. -/
theorem mem_renderLine_plain (h : c ∈ renderLine .plain [⟨s, style⟩]) :
    c ≠ '\t' ∧ (c = ' ' ∨ c ∈ s) := by
  obtain ⟨piece, hpiece, hc⟩ := List.mem_flatMap.1 h
  obtain ⟨-, htab, hsub⟩ := mem_expanded hpiece
  rw [paint_plain] at hc
  exact ⟨fun h => htab (h ▸ hc), hsub c hc⟩

/-- A plain line without tabs is printed as it is. -/
theorem renderLine_plain (h : '\t' ∉ s) : renderLine .plain [⟨s, style⟩] = s := by
  have hlast : s.getLast? ≠ some '\t' := fun hlast => h (List.mem_of_getLast? hlast)
  by_cases hs : s = []
  · subst hs
    rfl
  · simp [renderLine, cutAtTabs, tabParts_of_not_mem h, hs, expandTabs, hlast, paint_plain]

/-! ### Pieces in print -/

/-- Two texts one behind the other: the last line of the first goes on with the first line of the
second. -/
theorem splitAt_append_of_eq {s t last head : Text} {front tail : List Text}
    (hs : Text.splitAt '\n' s = front ++ [last]) (ht : Text.splitAt '\n' t = head :: tail) :
    Text.splitAt '\n' (s ++ t) = front ++ (last ++ head) :: tail := by
  induction s generalizing front last with
  | nil =>
    obtain ⟨rfl, rfl⟩ : front = [] ∧ last = [] := by
      cases front with
      | nil => exact ⟨rfl, (List.singleton_inj.1 hs).symm⟩
      | cons _ _ => simp [Text.splitAt] at hs
    exact ht
  | cons c s ih =>
    rw [List.cons_append, Text.splitAt] at *
    cases hrest : Text.splitAt '\n' s with
    | nil => exact absurd hrest (Text.splitAt_ne_nil '\n' s)
    | cons piece pieces =>
      rw [hrest] at hs
      split at hs
      · next hc =>
        cases front with
        | nil => simp at hs
        | cons first front =>
          obtain ⟨rfl, hfront⟩ := List.cons.inj hs
          rw [if_pos hc, ih (hrest.trans hfront)]
          rfl
      · next hc =>
        cases front with
        | nil =>
          obtain ⟨rfl, rfl⟩ := List.cons.inj hs
          have hpiece : Text.splitAt '\n' s = [] ++ [piece] := hrest
          rw [if_neg hc, ih hpiece]
          rfl
        | cons first front =>
          obtain ⟨rfl, rfl⟩ := List.cons.inj hs
          have hpieces : Text.splitAt '\n' s = (piece :: front) ++ [last] := hrest
          rw [if_neg hc, ih hpieces]
          rfl

/-- **The lines of some pieces** are those of their text. -/
theorem text_linesOf (pieces : List Piece) : (linesOf pieces).map (·.flatMap Piece.text)
    = Text.splitAt '\n' (pieces.flatMap Piece.text) := by
  induction pieces with
  | nil => rfl
  | cons piece rest ih =>
    obtain ⟨front, last, hsplit⟩ :=
      (List.eq_nil_or_concat' (Text.splitAt '\n' piece.text)).resolve_left
        (Text.splitAt_ne_nil '\n' piece.text)
    cases hrest : linesOf rest with
    | nil => exact absurd ih.symm (by simp [hrest, Text.splitAt_ne_nil])
    | cons head tail =>
      rw [hrest, List.map_cons] at ih
      rw [List.flatMap_cons, splitAt_append_of_eq hsplit ih.symm, linesOf, hsplit, hrest]
      simp [Function.comp_def]

theorem text_cutAtTabs (line : List Piece) :
    (cutAtTabs line).flatMap Piece.text = line.flatMap Piece.text := by
  have hparts : ∀ s : Text, (tabParts s).flatMap id = s := by
    intro s
    induction s with
    | nil => rfl
    | cons c s ih =>
      rw [tabParts]
      split
      · simp [ih]
      · cases hparts : tabParts s with
        | nil => simp_all
        | cons part parts => simp_all
  rw [cutAtTabs, List.flatMap_assoc]
  refine List.flatMap_congr fun piece _ => ?_
  rw [List.flatMap_map]
  exact hparts piece.text

/-- A text with blanks in place of its tabs: one blank, and as many more as lead to the next
multiple of `tabWidth` columns. `part`, which no tab has ended yet, stands in front of it, and
begins at `column`. -/
def padTabs (column : Nat) (part : Text) : Text → Text
  | [] => []
  | c :: s =>
    if c = '\t' then
      let reached := column + columns (part ++ [' '])
      let missing := (tabWidth - reached % tabWidth) % tabWidth
      ' ' :: (List.replicate missing ' ' ++ padTabs (reached + missing) [] s)
    else c :: padTabs column (part ++ [c]) s

theorem padTabs_append {column : Nat} (h : '\t' ∉ s) (t : Text) :
    padTabs column part (s ++ t) = s ++ padTabs column (part ++ s) t := by
  induction s generalizing part with
  | nil => simp
  | cons c s ih =>
    rw [List.mem_cons, not_or] at h
    rw [List.cons_append, padTabs, if_neg (Ne.symm h.1), ih h.2]
    simp

/-- A text without tabs is left as it is. -/
theorem padTabs_of_not_mem {column : Nat} (h : '\t' ∉ s) : padTabs column part s = s := by
  have happend : padTabs column part (s ++ []) = _ := padTabs_append h []
  simpa [padTabs] using happend

/-- The text of a line whose tabs are replaced. -/
theorem text_expandTabs {column : Nat} {pieces : List Piece}
    (h : ∀ piece ∈ pieces, '\t' ∉ piece.text.dropLast) :
    (expandTabs column part pieces).flatMap Piece.text
      = padTabs column part (pieces.flatMap Piece.text) := by
  fun_induction expandTabs column part pieces with
  | case1 => rfl
  | case2 column part piece rest hlast text reached missing ih =>
    obtain ⟨hpiece, hrest⟩ := List.forall_mem_cons.1 h
    obtain ⟨front, htext⟩ := List.getLast?_eq_some_iff.1 hlast
    rw [htext, List.dropLast_concat] at hpiece
    have hreplaced : text = front ++ [' '] := by simp [text, htext]
    rw [List.flatMap_cons, List.flatMap_cons, ih hrest, htext, List.append_assoc front,
      padTabs_append hpiece, List.singleton_append, padTabs, if_pos rfl]
    simp [missing, reached, hreplaced]
  | case3 column part piece rest hlast ih =>
    obtain ⟨hpiece, hrest⟩ := List.forall_mem_cons.1 h
    have htab : '\t' ∉ piece.text := fun hmem => by
      obtain ⟨front, last, htext⟩ := (List.eq_nil_or_concat' piece.text).resolve_left
        (List.ne_nil_of_mem hmem)
      rw [htext, List.dropLast_concat] at hpiece
      rw [htext, List.getLast?_concat] at hlast
      rw [htext] at hmem
      exact (List.mem_append.1 hmem).elim hpiece fun hmem =>
        hlast (congrArg some (List.mem_singleton.1 hmem).symm)
    rw [List.flatMap_cons, List.flatMap_cons, ih hrest, padTabs_append htab]

/-- The pieces of the lines that a device shows. -/
def printedLines (pieces : List Piece) : List (List Piece) :=
  (linesOf (pieces.map fun piece => { piece with text := clean piece.text })).map fun line =>
    expandTabs 0 [] (cutAtTabs line)

/-- **Any device shows the same lines of pieces**, each piece in its style. -/
theorem render_eq (rendering : Rendering) (pieces : List Piece) :
    render rendering pieces = Text.ended ((printedLines pieces).map fun line =>
      line.flatMap fun piece => paint rendering piece.style piece.text) := by
  have hne : printedLines pieces ≠ [] := by
    intro hnil
    have htexts := text_linesOf (pieces.map fun piece => { piece with text := clean piece.text })
    rw [List.map_eq_nil_iff.1 hnil] at htexts
    exact Text.splitAt_ne_nil _ _ htexts.symm
  rw [← Text.join_lf_append (by simpa using hne), printedLines, List.map_map]
  rfl

/-- **The text of what is shown**: that of the pieces without the characters that are removed, and
with blanks in place of its tabs. -/
theorem text_printedLines (pieces : List Piece) :
    (printedLines pieces).map (·.flatMap Piece.text)
      = (Text.splitAt '\n' (clean (pieces.flatMap Piece.text))).map (padTabs 0 []) := by
  have hcut : ∀ line : List Piece, ∀ piece ∈ cutAtTabs line, '\t' ∉ piece.text.dropLast := by
    intro line piece hpiece
    obtain ⟨original, -, hpiece⟩ := List.mem_flatMap.1 hpiece
    obtain ⟨part, hpart, rfl⟩ := List.mem_map.1 hpiece
    exact (mem_of_mem_tabParts hpart).2.1
  have hclean : (pieces.map fun piece => ({ piece with text := clean piece.text } : Piece)).flatMap
      Piece.text = clean (pieces.flatMap Piece.text) := by
    rw [List.flatMap_map, clean, List.filter_flatMap]
    rfl
  rw [← hclean, ← text_linesOf, printedLines, List.map_map, List.map_map]
  refine List.map_congr_left fun line _ => ?_
  exact (text_expandTabs (hcut line)).trans (congrArg _ (text_cutAtTabs line))

/-- A plain device shows the text alone. -/
theorem render_plain (pieces : List Piece) : render .plain pieces
    = Text.ended ((Text.splitAt '\n' (clean (pieces.flatMap Piece.text))).map (padTabs 0 [])) := by
  simp only [render_eq, paint_plain, ← text_printedLines]

/-! ### Printed messages -/

/-- **The lines of what is printed** are those of the message. -/
theorem count_lf_render (rendering : Rendering) (s : Text) (style : Style) :
    (render rendering [⟨s, style⟩]).count '\n' = s.count '\n' + 1 := by
  have hlines : ∀ line ∈ (Text.splitAt '\n' (clean s)).map (fun line =>
      renderLine rendering [⟨line, style⟩]), '\n' ∉ line := by
    intro line hline
    obtain ⟨piece, hpiece, rfl⟩ := List.mem_map.1 hline
    exact lf_not_mem_renderLine rendering style (Text.not_mem_of_mem_splitAt hpiece)
  have hclean : (clean s).count '\n' = s.count '\n' := List.count_filter (by decide)
  rw [render_eq_ended, Text.count_lf_ended hlines, List.length_map, Text.length_splitAt, hclean]

/-- **The messages that are printed as they are** on a plain device: those that hold no tab and
nothing that is removed. -/
theorem render_plain_eq_iff (s : Text) (style : Style) :
    render .plain [⟨s, style⟩] = s ++ ['\n'] ↔ ∀ c ∈ s, c ≠ '\t' ∧ isRemoved c = false := by
  constructor
  · intro hsame c hc
    have hmem : c ∈ render .plain [⟨s, style⟩] := hsame ▸ List.mem_append_left _ hc
    rw [render_eq_ended] at hmem
    obtain rfl | ⟨line, hline, hc⟩ := Text.mem_ended hmem
    · decide
    obtain ⟨piece, hpiece, rfl⟩ := List.mem_map.1 hline
    obtain ⟨htab, rfl | hc⟩ := mem_renderLine_plain hc
    · decide
    · have hclean : c ∈ clean s := (Text.isInfix_of_mem_splitAt hpiece).subset hc
      exact ⟨htab, by simpa [clean] using (List.mem_filter.1 hclean).2⟩
  · intro h
    have hclean : clean s = s := List.filter_eq_self.2 fun c hc => by simp [(h c hc).2]
    have hlines : ∀ piece ∈ Text.splitAt '\n' s, renderLine .plain [⟨piece, style⟩] = piece :=
      fun piece hpiece => renderLine_plain fun htab =>
        (h _ ((Text.isInfix_of_mem_splitAt hpiece).subset htab)).1 rfl
    rw [render_eq_ended, hclean, List.map_congr_left hlines, List.map_id',
      ← Text.join_lf_append (Text.splitAt_ne_nil '\n' s), Text.join_splitAt]

theorem count_lf_messageText (level : Level) (rendering : Rendering) (message : Text) :
    (messageText level false rendering message).count '\n' = message.count '\n' + 1 :=
  count_lf_render rendering message _

theorem messageText_plain_eq_iff (level : Level) (message : Text) :
    messageText level false .plain message = message ++ ['\n'] ↔
      ∀ c ∈ message, c ≠ '\t' ∧ isRemoved c = false :=
  render_plain_eq_iff message _

end Console

end Oneshot
