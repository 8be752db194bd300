import Mathlib.Data.List.Basic
import Mathlib.Data.List.DropRight
import Mathlib.Data.List.Infix
import Oneshot.Text.Blank

/-!
# Blanks around and between Words

Trimming and single spacing both forget how a text was laid out. This module says what they leave:
a text with no blank at either end, and words with one space between neighbours. A text that has
that form already is left as it is, so that what has been trimmed or spaced once is stable.

* `trim_eq_self`, `trimmed_trim`: trimming keeps exactly the trimmed texts.
* `trim_padded`: trimming takes away the blanks around a trimmed text.
* `words_join`: words with a space between neighbours are read back as they are.
* `singleSpaced_singleSpaced`: single spacing is done once.

A text can also be cut at a character. It then falls into pieces without it, one more than the
character has places, and is what they give when they are joined again.

* `not_mem_of_mem_splitAt`, `isInfix_of_mem_splitAt`: a piece is a part of the text that does not
  hold the separator.
* `join_splitAt`: joining the pieces gives back the text.
* `length_splitAt`: how many pieces there are.
-/

namespace Oneshot

namespace Text

/-! ### Trimming -/

/-- A text with no blank at either end. -/
structure Trimmed (s : Text) : Prop where
  head : ∀ c, s.head? = some c → isBlank c = false
  last : ∀ c, s.getLast? = some c → isBlank c = false

theorem trimmed_of_not_isBlank {s : Text} (h : ∀ c ∈ s, isBlank c = false) : Trimmed s where
  head c hc := h c (List.mem_of_head? hc)
  last c hc := h c (List.mem_of_getLast? hc)

theorem Trimmed.append {s t : Text} (hs : Trimmed s) (ht : Trimmed t) : Trimmed (s ++ t) where
  head c hc := by
    rw [List.head?_append, Option.or_eq_some_iff] at hc
    exact hc.elim (hs.head c) fun h => ht.head c h.2
  last c hc := by
    rw [List.getLast?_append, Option.or_eq_some_iff] at hc
    exact hc.elim (ht.last c) fun h => hs.last c h.2

theorem dropEndWhile_eq_rdropWhile (p : Char → Bool) (s : Text) :
    dropEndWhile p s = s.rdropWhile p := by
  induction s with
  | nil => rfl
  | cons c cs ih =>
    simp only [dropEndWhile, ih, List.rdropWhile, List.reverse_cons, List.dropWhile_append]
    by_cases h : (cs.reverse.dropWhile p).isEmpty
    · by_cases hc : p c = true <;> simp [List.isEmpty_iff.1 h, hc]
    · obtain ⟨d, ds, hd⟩ : ∃ d ds, (cs.reverse.dropWhile p).reverse = d :: ds :=
        List.exists_cons_of_ne_nil (by simpa [List.isEmpty_iff] using h)
      simp [h, hd]

theorem trim_eq_self {s : Text} (h : Trimmed s) : trim s = s := by
  have hstart : trimStart s = s := by
    cases s with
    | nil => rfl
    | cons c cs => exact trimStart_of_not_isBlank (h.head c rfl)
  rw [trim, hstart, trimEnd, dropEndWhile_eq_rdropWhile, List.rdropWhile_eq_self_iff]
  intro hne
  simp [h.last _ (List.getLast?_eq_some_getLast hne)]

theorem trimmed_trim (s : Text) : Trimmed (trim s) := by
  rw [trim, trimEnd, dropEndWhile_eq_rdropWhile]
  refine ⟨fun c hc => ?_, fun c hc => ?_⟩
  · -- what is dropped at the end leaves the first character of the rest in place
    obtain ⟨t, ht⟩ := List.rdropWhile_prefix isBlank (trimStart s)
    have hhead : (trimStart s).head? = some c := by
      rw [← ht, List.head?_append, hc]
      rfl
    have := List.head?_dropWhile_not isBlank s
    rw [trimStart] at hhead
    simpa [hhead] using this
  · have hne : (trimStart s).rdropWhile isBlank ≠ [] := by
      intro h
      simp [h] at hc
    have := List.rdropWhile_last_not isBlank (trimStart s) hne
    rw [List.getLast?_eq_some_getLast hne, Option.some.injEq] at hc
    simpa [hc] using this

/-- A text of blanks only. -/
def Blank (s : Text) : Prop :=
  ∀ c ∈ s, isBlank c = true

/-- **Trimming takes away the blanks** around a trimmed text, and nothing else. -/
theorem trim_padded {before s after : Text} (hbefore : Blank before) (hs : Trimmed s)
    (hafter : Blank after) : trim (before ++ (s ++ after)) = s := by
  have hend : (s ++ after).rdropWhile isBlank = s.rdropWhile isBlank := by
    rw [List.rdropWhile, List.reverse_append,
      List.dropWhile_append_of_pos fun c hc => hafter c (List.mem_reverse.1 hc), List.rdropWhile]
  rw [trim, trimStart, List.dropWhile_append_of_pos hbefore, trimEnd, dropEndWhile_eq_rdropWhile]
  cases s with
  | nil => rw [List.nil_append, List.dropWhile_eq_nil_iff.2 hafter, List.rdropWhile_nil]
  | cons c s =>
    have hstart : (c :: s ++ after).dropWhile isBlank = c :: s ++ after :=
      List.dropWhile_cons_of_neg (by simp [hs.head c rfl])
    rw [hstart, hend, ← dropEndWhile_eq_rdropWhile]
    have hself := trim_eq_self hs
    rwa [trim, trimStart_of_not_isBlank (hs.head c rfl)] at hself

/-- Trimming brings in no characters. -/
theorem mem_of_mem_trim {s : Text} {c : Char} (h : c ∈ trim s) : c ∈ s := by
  rw [trim, trimEnd, dropEndWhile_eq_rdropWhile] at h
  exact (List.dropWhile_suffix _).mem ((List.rdropWhile_prefix _ _).mem h)

/-- Trimming leaves out blanks at both ends. -/
theorem exists_trim (s : Text) :
    ∃ before after, s = before ++ (trim s ++ after) ∧ Blank before ∧ Blank after := by
  refine ⟨s.takeWhile isBlank, (trimStart s).rtakeWhile isBlank, ?_, fun c hc => ?_, fun c hc => ?_⟩
  · rw [trim, trimEnd, dropEndWhile_eq_rdropWhile, List.rdropWhile_append_rtakeWhile, trimStart,
      List.takeWhile_append_dropWhile]
  · exact List.mem_takeWhile_imp hc
  · exact List.mem_rtakeWhile_imp hc

/-- Trimming leaves out no characters but blanks. -/
theorem isBlank_or_mem_trim {s : Text} {c : Char} (h : c ∈ s) : isBlank c = true ∨ c ∈ trim s := by
  obtain ⟨before, after, hs, hbefore, hafter⟩ := exists_trim s
  rw [hs] at h
  rcases List.mem_append.1 h with h | h
  · exact .inl (hbefore c h)
  · exact (List.mem_append.1 h).symm.imp_left (hafter c)

/-! ### Words -/

/-- A text that is a single word. -/
structure IsWord (w : Text) : Prop where
  ne_nil : w ≠ []
  not_isBlank : ∀ c ∈ w, isBlank c = false

theorem words_cons_of_isBlank {c : Char} (h : isBlank c = true) (s : Text) :
    words (c :: s) = words s := by
  simp [words, wordsFrom, h]

/-- Characters of a word go on with the word as a whole. -/
theorem wordsFrom_append {w : Text} (h : ∀ c ∈ w, isBlank c = false) (word s : Text) :
    wordsFrom word (w ++ s) = wordsFrom (w.reverse ++ word) s := by
  induction w generalizing word with
  | nil => rfl
  | cons c cs ih =>
    have hc : isBlank c = false := h c (by simp)
    rw [List.cons_append, wordsFrom, if_neg (by simp [hc]),
      ih fun d hd => h d (List.mem_cons_of_mem c hd)]
    simp

theorem IsWord.words_eq {w : Text} (h : IsWord w) : words w = [w] := by
  have := wordsFrom_append h.not_isBlank [] []
  simp only [List.append_nil] at this
  rw [words, this, wordsFrom, if_neg (by simpa using h.ne_nil), List.reverse_reverse]

theorem IsWord.words_append {w : Text} (h : IsWord w) {c : Char} (hc : isBlank c = true)
    (s : Text) : words (w ++ c :: s) = w :: words s := by
  rw [words, wordsFrom_append h.not_isBlank, List.append_nil, wordsFrom, if_pos hc,
    if_neg (by simpa using h.ne_nil), List.reverse_reverse]
  rfl

/-- **Words with a space between neighbours are read back as they are.** -/
theorem words_join {ws : List Text} (h : ∀ w ∈ ws, IsWord w) : words (join [' '] ws) = ws := by
  induction ws with
  | nil => rfl
  | cons w ws ih =>
    have hw : IsWord w := h w (by simp)
    cases ws with
    | nil => exact hw.words_eq
    | cons v vs =>
      have hvs := ih fun u hu => h u (List.mem_cons_of_mem w hu)
      rw [join, List.append_assoc, List.singleton_append, hw.words_append (by decide), hvs]

theorem isWord_of_mem_wordsFrom {word s w : Text} (hword : ∀ c ∈ word, isBlank c = false)
    (h : w ∈ wordsFrom word s) : IsWord w := by
  fun_induction wordsFrom word s with
  | case1 word he => simp at h
  | case2 word he =>
    obtain rfl := List.mem_singleton.1 h
    exact ⟨by simpa using he, by simpa using hword⟩
  | case3 word c cs hc he ih => exact ih (by simp) h
  | case4 word c cs hc he ih =>
    rcases List.mem_cons.1 h with rfl | h
    · exact ⟨by simpa using he, by simpa using hword⟩
    · exact ih (by simp) h
  | case5 word c cs hc ih =>
    refine ih (fun d hd => ?_) h
    rcases List.mem_cons.1 hd with rfl | hd
    · simpa using hc
    · exact hword d hd

theorem isWord_of_mem_words {s w : Text} (h : w ∈ words s) : IsWord w :=
  isWord_of_mem_wordsFrom (by simp) h

/-- The words hold no characters but those of the text. -/
theorem mem_of_mem_wordsFrom {word s w : Text} (h : w ∈ wordsFrom word s) {c : Char}
    (hc : c ∈ w) : c ∈ word ∨ c ∈ s := by
  fun_induction wordsFrom word s with
  | case1 word he => simp at h
  | case2 word he =>
    obtain rfl := List.mem_singleton.1 h
    exact .inl (by simpa using hc)
  | case3 word d cs hd he ih =>
    rcases ih h with h | h
    · simp at h
    · exact .inr (List.mem_cons_of_mem d h)
  | case4 word d cs hd he ih =>
    rcases List.mem_cons.1 h with rfl | h
    · exact .inl (by simpa using hc)
    · rcases ih h with h | h
      · simp at h
      · exact .inr (List.mem_cons_of_mem d h)
  | case5 word d cs hd ih =>
    rcases ih h with h | h
    · rcases List.mem_cons.1 h with rfl | h
      · exact .inr (by simp)
      · exact .inl h
    · exact .inr (List.mem_cons_of_mem d h)

/-! ### Single spacing -/

/-- **Single spacing is done once.** -/
@[simp] theorem singleSpaced_singleSpaced (s : Text) :
    singleSpaced (singleSpaced s) = singleSpaced s := by
  rw [singleSpaced, singleSpaced, words_join fun w hw => isWord_of_mem_words hw]

theorem singleSpaced_cons_of_isBlank {c : Char} (h : isBlank c = true) (s : Text) :
    singleSpaced (c :: s) = singleSpaced s := by
  rw [singleSpaced, words_cons_of_isBlank h, singleSpaced]

theorem mem_of_mem_join {sep : Text} {parts : List Text} {c : Char} (h : c ∈ join sep parts) :
    c ∈ sep ∨ ∃ part ∈ parts, c ∈ part := by
  induction parts with
  | nil => simp [join] at h
  | cons part parts ih =>
    cases parts with
    | nil => exact .inr ⟨part, by simp, h⟩
    | cons next rest =>
      simp only [join, List.mem_append] at h
      rcases h with (h | h) | h
      · exact .inr ⟨part, by simp, h⟩
      · exact .inl h
      · rcases ih h with h | ⟨other, hother, hc⟩
        · exact .inl h
        · exact .inr ⟨other, List.mem_cons_of_mem part hother, hc⟩

/-- Single spacing brings in no characters but spaces. -/
theorem mem_of_mem_singleSpaced {s : Text} {c : Char} (h : c ∈ singleSpaced s) :
    c = ' ' ∨ c ∈ s := by
  rcases mem_of_mem_join h with h | ⟨w, hw, hc⟩
  · exact .inl (by simpa using h)
  · exact .inr (by simpa using mem_of_mem_wordsFrom hw hc)

theorem mem_join_of_mem {sep : Text} {parts : List Text} {part : Text} (hpart : part ∈ parts)
    {c : Char} (hc : c ∈ part) : c ∈ join sep parts := by
  induction parts with
  | nil => simp at hpart
  | cons first parts ih =>
    cases parts with
    | nil =>
      obtain rfl := List.mem_singleton.1 hpart
      exact hc
    | cons next rest =>
      simp only [join, List.mem_append]
      rcases List.mem_cons.1 hpart with rfl | hpart
      · exact .inl (.inl hc)
      · exact .inr (ih hpart)

theorem isBlank_or_mem_wordsFrom {word s : Text} {c : Char} (h : c ∈ word ∨ c ∈ s) :
    isBlank c = true ∨ ∃ w ∈ wordsFrom word s, c ∈ w := by
  fun_induction wordsFrom word s with
  | case1 word he => simp [List.isEmpty_iff.1 he] at h
  | case2 word he => exact .inr ⟨_, List.mem_singleton_self _, by simpa using h⟩
  | case3 word d cs hd he ih =>
    rcases h with h | h
    · simp [List.isEmpty_iff.1 he] at h
    · rcases List.mem_cons.1 h with rfl | h
      · exact .inl hd
      · exact ih (.inr h)
  | case4 word d cs hd he ih =>
    rcases h with h | h
    · exact .inr ⟨_, List.mem_cons_self, by simpa using h⟩
    · rcases List.mem_cons.1 h with rfl | h
      · exact .inl hd
      · exact (ih (.inr h)).imp_right fun ⟨w, hw, hc⟩ => ⟨w, List.mem_cons_of_mem _ hw, hc⟩
  | case5 word d cs hd ih =>
    refine ih ?_
    rcases h with h | h
    · exact .inl (List.mem_cons_of_mem d h)
    · rcases List.mem_cons.1 h with rfl | h
      · exact .inl List.mem_cons_self
      · exact .inr h

/-- Words with a space between neighbours make a text without blanks at its ends. -/
theorem trimmed_join {ws : List Text} (h : ∀ w ∈ ws, IsWord w) : Trimmed (join [' '] ws) := by
  induction ws with
  | nil => exact trimmed_of_not_isBlank (by simp [join])
  | cons w ws ih =>
    have hw : IsWord w := h w (by simp)
    cases ws with
    | nil => exact trimmed_of_not_isBlank hw.not_isBlank
    | cons v vs =>
      have hrest := ih fun u hu => h u (List.mem_cons_of_mem w hu)
      obtain ⟨d, hd⟩ := List.exists_mem_of_ne_nil v (h v (by simp)).ne_nil
      have hne : join [' '] (v :: vs) ≠ [] := List.ne_nil_of_mem (mem_join_of_mem (by simp) hd)
      constructor
      · intro c hc
        rw [join, List.append_assoc, List.head?_append_of_ne_nil _ hw.ne_nil] at hc
        exact hw.not_isBlank c (List.mem_of_head? hc)
      · intro c hc
        rw [join, List.getLast?_append_of_ne_nil _ hne] at hc
        exact hrest.last c hc

theorem trimmed_singleSpaced (s : Text) : Trimmed (singleSpaced s) :=
  trimmed_join fun _ hw => isWord_of_mem_words hw

/-- Single spacing leaves out no characters but blanks. -/
theorem isBlank_or_mem_singleSpaced {s : Text} {c : Char} (h : c ∈ s) :
    isBlank c = true ∨ c ∈ singleSpaced s := by
  rcases isBlank_or_mem_wordsFrom (.inr h) with hc | ⟨w, hw, hc⟩
  · exact .inl hc
  · exact .inr (mem_join_of_mem hw hc)

/-! ### Pieces between separators -/

section Pieces

variable {sep : Char} {s piece : Text}

theorem splitAt_ne_nil (sep : Char) (s : Text) : splitAt sep s ≠ [] := by
  cases s with
  | nil => simp [splitAt]
  | cons c cs =>
    rw [splitAt]
    split
    · simp
    · split <;> simp

/-- A character other than the separator belongs to the first piece. -/
theorem splitAt_cons_of_ne {c : Char} (h : c ≠ sep) (s : Text) :
    ∃ piece pieces, splitAt sep s = piece :: pieces ∧
      splitAt sep (c :: s) = (c :: piece) :: pieces := by
  obtain ⟨piece, pieces, hs⟩ := List.exists_cons_of_ne_nil (splitAt_ne_nil sep s)
  exact ⟨piece, pieces, hs, by rw [splitAt, if_neg h, hs]⟩

/-- A piece holds no separator. -/
theorem not_mem_of_mem_splitAt (h : piece ∈ splitAt sep s) : sep ∉ piece := by
  induction s generalizing piece with
  | nil =>
    obtain rfl := List.mem_singleton.1 h
    simp
  | cons c cs ih =>
    by_cases hc : c = sep
    · rw [splitAt, if_pos hc] at h
      rcases List.mem_cons.1 h with rfl | h
      · simp
      · exact ih h
    · obtain ⟨first, pieces, hs, hcons⟩ := splitAt_cons_of_ne hc cs
      rw [hcons] at h
      rcases List.mem_cons.1 h with rfl | h
      · have hfirst : sep ∉ first := ih (hs ▸ List.mem_cons_self)
        simpa [hfirst] using fun e : sep = c => hc e.symm
      · exact ih (hs ▸ List.mem_cons_of_mem first h)

/-- Joining the pieces of a cut gives back the text. -/
theorem join_splitAt (sep : Char) (s : Text) : join [sep] (splitAt sep s) = s := by
  induction s with
  | nil => rfl
  | cons c s ih =>
    by_cases hc : c = sep
    · obtain ⟨piece, pieces, hs⟩ := List.exists_cons_of_ne_nil (splitAt_ne_nil sep s)
      rw [splitAt, if_pos hc, hs, join, ← hs, ih, hc]
      rfl
    · obtain ⟨piece, pieces, hs, hcons⟩ := splitAt_cons_of_ne hc s
      rw [hs] at ih
      rw [hcons]
      cases pieces with
      | nil => simpa [join] using ih
      | cons next rest => simpa [join] using ih

/-- A piece is a part of the text. -/
theorem isInfix_of_mem_splitAt (h : piece ∈ splitAt sep s) : piece <:+: s := by
  rw [← join_splitAt sep s]
  generalize splitAt sep s = pieces at h
  induction pieces with
  | nil => simp at h
  | cons first pieces ih =>
    cases pieces with
    | nil =>
      obtain rfl := List.mem_singleton.1 h
      exact List.infix_refl piece
    | cons next rest =>
      rw [join]
      rcases List.mem_cons.1 h with rfl | h
      · exact ⟨[], [sep] ++ join [sep] (next :: rest), by simp⟩
      · exact (ih h).trans (List.suffix_append _ _).isInfix

/-- Each separator begins a piece. -/
theorem length_splitAt (sep : Char) (s : Text) : (splitAt sep s).length = s.count sep + 1 := by
  induction s with
  | nil => rfl
  | cons c s ih =>
    by_cases hc : c = sep
    · rw [splitAt, if_pos hc, List.length_cons, ih, hc, List.count_cons_self]
    · obtain ⟨piece, pieces, hs, hcons⟩ := splitAt_cons_of_ne hc s
      rw [hs, List.length_cons] at ih
      rw [hcons, List.length_cons, ih, List.count_cons_of_ne hc]

end Pieces

end Text

end Oneshot
