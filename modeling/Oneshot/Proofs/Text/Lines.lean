import Mathlib.Data.List.Basic
import Oneshot.Text.Line

/-!
# Lines of Joined Texts

A text is cut at every kind of line boundary, but it is put together with LF alone. This module
says what the cut makes of a text that was put together that way.

One equation carries all of it: an LF ends a line whatever stands in front of it
(`linesFrom_append_lf`), so that the lines of a text with an LF inside are the lines up to it and
the lines behind it. No character behind an LF can become part of the boundary, which is what
distinguishes it from CR.

## Main results

* `lines_append_lf`: the lines of two texts with an LF between them.
* `lines_ended_append`: unbroken lines, each ended by LF, are read back as they are.
* `lines_dropLines`: the text behind the first `n` lines has the remaining lines.
* `join_lines`: a text without CR, cut into lines and joined again, is the text with every
  boundary read as LF, up to one LF at its end.
-/

namespace Oneshot

namespace Text

/-- A text that no line boundary breaks. -/
def Unbroken (s : Text) : Prop :=
  ∀ c ∈ s, isBoundary c = false

instance (s : Text) : Decidable (Unbroken s) :=
  List.decidableBAll (fun c => isBoundary c = false) s

@[simp] theorem unbroken_nil : Unbroken [] := by
  simp [Unbroken]

@[simp] theorem unbroken_cons {c : Char} {s : Text} :
    Unbroken (c :: s) ↔ isBoundary c = false ∧ Unbroken s := by
  simp [Unbroken]

@[simp] theorem unbroken_append {s t : Text} : Unbroken (s ++ t) ↔ Unbroken s ∧ Unbroken t := by
  simp [Unbroken, or_imp, forall_and]

theorem unbroken_of_mem_lines {s l : Text} (h : l ∈ lines s) : Unbroken l :=
  not_isBoundary_of_mem_lines h

@[simp] theorem lines_nil : lines [] = [] := rfl

/-! ### One character of the cut -/

@[simp] theorem isBoundary_lf : isBoundary '\n' = true := rfl

theorem ne_lf_of_not_isBoundary {c : Char} (h : isBoundary c = false) : c ≠ '\n' := by
  rintro rfl
  simp at h

/-- A character that is no boundary goes on with the line. -/
theorem linesFrom_cons_of_not_isBoundary {c : Char} (h : isBoundary c = false)
    (line cs : Text) : linesFrom line (c :: cs) = linesFrom (c :: line) cs := by
  have hr : c ≠ '\r' := by
    rintro rfl
    simp [isBoundary] at h
  rw [linesFrom]
  · simp [h]
  · exact fun _ hc => absurd hc hr

/-- A boundary ends the line, unless it is the CR of a CR LF. -/
theorem linesFrom_cons_of_isBoundary {c : Char} {cs : Text} (h : isBoundary c = true)
    (hcr : c = '\r' → cs.head? ≠ some '\n') (line : Text) :
    linesFrom line (c :: cs) = line.reverse :: lines cs := by
  rw [linesFrom, if_pos h, lines]
  rintro ds hc rfl
  exact hcr hc rfl

@[simp] theorem linesFrom_crlf (line cs : Text) :
    linesFrom line ('\r' :: '\n' :: cs) = line.reverse :: lines cs :=
  rfl

@[simp] theorem linesFrom_lf (line cs : Text) :
    linesFrom line ('\n' :: cs) = line.reverse :: lines cs :=
  rfl

/-- An unbroken text goes on with the line as a whole. -/
theorem linesFrom_append_of_unbroken {s : Text} (h : Unbroken s) (line t : Text) :
    linesFrom line (s ++ t) = linesFrom (s.reverse ++ line) t := by
  induction s generalizing line with
  | nil => rfl
  | cons c cs ih =>
    obtain ⟨hc, hcs⟩ := unbroken_cons.1 h
    rw [List.cons_append, linesFrom_cons_of_not_isBoundary hc, ih hcs]
    simp

/-! ### Texts with an LF inside -/

/-- **An LF ends a line whatever stands in front of it.** A CR just before the LF belongs to the
same boundary on both sides of the equation. -/
theorem linesFrom_append_lf (line s t : Text) :
    linesFrom line (s ++ '\n' :: t) = linesFrom line (s ++ ['\n']) ++ lines t := by
  fun_induction linesFrom line s with
  | case1 line he => rfl
  | case2 line he => rfl
  | case3 line cs ih =>
    rw [List.cons_append, List.cons_append, linesFrom_crlf]
    exact congrArg _ ih
  | case4 line c cs hcr hc ih =>
    cases cs with
    | nil =>
      -- a CR at the very end takes the LF with it
      by_cases hr : c = '\r'
      · subst hr
        rfl
      · have hne (es : Text) : linesFrom line (c :: es) = line.reverse :: lines es :=
          linesFrom_cons_of_isBoundary hc (fun h => absurd h hr) line
        simp only [List.cons_append, List.nil_append, hne]
        rfl
    | cons d ds =>
      have hd : c = '\r' → d ≠ '\n' := by
        rintro rfl rfl
        exact hcr ds rfl rfl
      have hne (es : Text) : linesFrom line (c :: d :: es) = line.reverse :: lines (d :: es) :=
        linesFrom_cons_of_isBoundary hc (fun h => by simpa using hd h) line
      simp only [List.cons_append, hne]
      exact congrArg _ ih
  | case5 line c cs hcr hc ih =>
    have hc' : isBoundary c = false := by simpa using hc
    simpa only [List.cons_append, linesFrom_cons_of_not_isBoundary hc'] using ih

theorem lines_append_lf (s t : Text) :
    lines (s ++ '\n' :: t) = lines (s ++ ['\n']) ++ lines t :=
  linesFrom_append_lf [] s t

/-- An unbroken text in front of an LF is a line. -/
theorem lines_cons_lf {s : Text} (h : Unbroken s) (t : Text) :
    lines (s ++ '\n' :: t) = s :: lines t := by
  rw [lines, linesFrom_append_of_unbroken h]
  simp

/-! ### Ended lines -/

@[simp] theorem ended_nil : ended [] = [] := rfl

@[simp] theorem ended_cons (l : Text) (ls : List Text) :
    ended (l :: ls) = l ++ '\n' :: ended ls := by
  simp [ended]

@[simp] theorem ended_append (ls ms : List Text) : ended (ls ++ ms) = ended ls ++ ended ms := by
  simp [ended]

/-- Joining leaves out the LF of the last line, and that one alone. -/
theorem join_lf_append {ls : List Text} (h : ls ≠ []) : join ['\n'] ls ++ ['\n'] = ended ls := by
  induction ls with
  | nil => exact absurd rfl h
  | cons l ls ih =>
    cases ls with
    | nil => simp [join]
    | cons m ms =>
      have hms := ih (by simp)
      rw [join, ended_cons, ← hms]
      simp

/-- What stands behind ended texts is cut on its own, also where the texts hold boundaries. -/
theorem lines_ended_append (ls : List Text) (t : Text) :
    lines (ended ls ++ t) = lines (ended ls) ++ lines t := by
  by_cases h : ls = []
  · subst h
    rfl
  · rw [← join_lf_append h, List.append_assoc, List.singleton_append, lines_append_lf]

/-- **Unbroken lines are read back as they are.** -/
theorem lines_ended {ls : List Text} (h : ∀ l ∈ ls, Unbroken l) : lines (ended ls) = ls := by
  induction ls with
  | nil => rfl
  | cons l ls ih =>
    rw [ended_cons, lines_cons_lf (h l (by simp)), ih fun m hm => h m (List.mem_cons_of_mem _ hm)]

/-! ### The text behind its first lines -/

/-- The text behind its first line boundary. -/
def afterLine : Text → Text
  | [] => []
  | '\r' :: '\n' :: cs => cs
  | c :: cs => if isBoundary c then cs else afterLine cs

/-- The text behind its first `n` lines, boundaries included. -/
def dropLines : Nat → Text → Text
  | 0, s => s
  | n + 1, s => dropLines n (afterLine s)

theorem afterLine_suffix (s : Text) : afterLine s <:+ s := by
  fun_induction afterLine s with
  | case1 => exact List.suffix_refl []
  | case2 cs => exact ⟨['\r', '\n'], rfl⟩
  | case3 c cs _ hc => exact List.suffix_cons c cs
  | case4 c cs _ hc ih => exact ih.trans (List.suffix_cons c cs)

/-- What is left behind some lines is a last part of the text, unchanged. -/
theorem dropLines_suffix (n : Nat) (s : Text) : dropLines n s <:+ s := by
  induction n generalizing s with
  | zero => exact List.suffix_refl s
  | succ n ih => exact (ih (afterLine s)).trans (afterLine_suffix s)

theorem tail_linesFrom (line s : Text) : (linesFrom line s).tail = lines (afterLine s) := by
  fun_induction linesFrom line s with
  | case1 line he => rfl
  | case2 line he => rfl
  | case3 line cs ih => rfl
  | case4 line c cs hcr hc ih =>
    rw [afterLine, if_pos hc, List.tail_cons, lines]
    exact fun ds h1 h2 => hcr ds h1 h2
  | case5 line c cs hcr hc ih =>
    rw [afterLine, if_neg hc, ih]
    exact fun ds h1 h2 => hcr ds h1 h2

/-- **The text behind the first `n` lines has the remaining lines.** -/
theorem lines_dropLines (n : Nat) (s : Text) : lines (dropLines n s) = (lines s).drop n := by
  induction n generalizing s with
  | zero => rfl
  | succ n ih =>
    rw [dropLines, ih, ← tail_linesFrom [] s, List.drop_tail]
    rfl

/-! ### Lines joined again -/

/-- The text with every line boundary read as LF. -/
def lfBreaks (s : Text) : Text :=
  s.map fun c => if isBoundary c then '\n' else c

/-- The text with its last line ended: an LF is added where a line is left open. -/
def closed (s : Text) : Text :=
  if s.getLast?.getD '\n' = '\n' then s else s ++ ['\n']

theorem closed_append_lf (s t : Text) : closed (s ++ '\n' :: t) = s ++ '\n' :: closed t := by
  cases t with
  | nil => simp [closed]
  | cons c cs =>
    have hlast : (s ++ '\n' :: c :: cs).getLast? = (c :: cs).getLast? := by
      simp [List.getLast?_append, List.getLast?_cons]
    simp only [closed, hlast]
    split <;> simp

/-- A text without CR, cut into lines that are ended by LF, is the text with every boundary read
as LF, its last line ended. The line that has been begun goes in front. -/
theorem ended_linesFrom {line s : Text} (hl : Unbroken line) (hs : '\r' ∉ s) :
    ended (linesFrom line s) = closed (line.reverse ++ lfBreaks s) := by
  fun_induction linesFrom line s with
  | case1 line he =>
    obtain rfl := List.isEmpty_iff.1 he
    rfl
  | case2 line he =>
    obtain ⟨c, cs, rfl⟩ : ∃ c cs, line = c :: cs := List.exists_cons_of_ne_nil (by simpa using he)
    have hc : c ≠ '\n' := ne_lf_of_not_isBoundary (unbroken_cons.1 hl).1
    simp [closed, lfBreaks, hc]
  | case3 line cs ih => simp at hs
  | case4 line c cs hcr hc ih =>
    have hcs : '\r' ∉ cs := fun h => hs (List.mem_cons_of_mem c h)
    have hb : lfBreaks (c :: cs) = '\n' :: lfBreaks cs := by simp [lfBreaks, hc]
    rw [ended_cons, ih unbroken_nil hcs, hb, closed_append_lf]
    rfl
  | case5 line c cs hcr hc ih =>
    have hcs : '\r' ∉ cs := fun h => hs (List.mem_cons_of_mem c h)
    have hc' : isBoundary c = false := by simpa using hc
    have hb : lfBreaks (c :: cs) = c :: lfBreaks cs := by simp [lfBreaks, hc]
    rw [ih (unbroken_cons.2 ⟨hc', hl⟩) hcs, hb]
    simp

theorem dropEnd_append (s t : Text) : dropEnd t (s ++ t) = s := by
  simp [dropEnd]

theorem dropEnd_lf_of_ne {c : Char} (h : c ≠ '\n') (s : Text) :
    dropEnd ['\n'] (s ++ [c]) = s ++ [c] := by
  have hs : ¬ ['\n'] <:+ s ++ [c] := by
    rintro ⟨t, ht⟩
    exact h (List.append_singleton_inj.1 ht).2.symm
  rw [dropEnd, if_neg (by simpa using hs)]

/-- **Cutting and joining.** A text without CR comes back with every boundary read as LF, up to
one LF at its end. -/
theorem join_lines {s : Text} (hs : '\r' ∉ s) :
    join ['\n'] (lines s) = dropEnd ['\n'] (lfBreaks s) := by
  have hended : ended (lines s) = closed (lfBreaks s) := ended_linesFrom unbroken_nil hs
  obtain hm | ⟨t, c, hm⟩ := List.eq_nil_or_concat' (lfBreaks s)
  · have hnil : lines s = [] := by
      rw [List.map_eq_nil_iff.1 hm, lines_nil]
    rw [hm, hnil]
    rfl
  · have hne : lines s ≠ [] := by
      intro h
      rw [h, hm, closed] at hended
      split at hended <;> simp at hended
    have hjoin : join ['\n'] (lines s) ++ ['\n'] = closed (t ++ [c]) := by
      rw [join_lf_append hne, hended, hm]
    rw [hm]
    by_cases hc : c = '\n'
    · subst hc
      rw [dropEnd_append]
      exact List.append_cancel_right (hjoin.trans (by simp [closed]))
    · rw [dropEnd_lf_of_ne hc]
      exact List.append_cancel_right (hjoin.trans (by simp [closed, hc]))

theorem lfBreaks_eq_self_iff {s : Text} :
    lfBreaks s = s ↔ ∀ c ∈ s, isBoundary c = true → c = '\n' := by
  induction s with
  | nil => simp [lfBreaks]
  | cons c cs ih =>
    have hc : (if isBoundary c then '\n' else c) = c ↔ (isBoundary c = true → c = '\n') := by
      by_cases hb : isBoundary c = true
      · simpa [hb] using eq_comm
      · simp [hb]
    simp only [lfBreaks, List.map_cons, List.cons.injEq, hc, List.mem_cons, forall_eq_or_imp]
    exact and_congr_right fun _ => ih

/-- **Cutting and joining keep a text only if LF is its only boundary**, also where an LF at its
end is not counted. -/
theorem eq_or_eq_append_lf_iff {s : Text} :
    (s = dropEnd ['\n'] (lfBreaks s) ∨ s = dropEnd ['\n'] (lfBreaks s) ++ ['\n']) ↔
      ∀ c ∈ s, isBoundary c = true → c = '\n' := by
  rw [← lfBreaks_eq_self_iff]
  obtain rfl | ⟨t, c, rfl⟩ := List.eq_nil_or_concat' s
  · exact iff_of_true (.inl rfl) rfl
  have hlength : (lfBreaks t).length = t.length := List.length_map _
  by_cases hb : isBoundary c = true
  · -- the boundary at the end has become an LF, and is dropped
    have happ : lfBreaks (t ++ [c]) = lfBreaks t ++ ['\n'] := by simp [lfBreaks, hb]
    rw [happ, dropEnd_append]
    constructor
    · rintro (h | h)
      · have := congrArg List.length h
        simp [hlength] at this
      · exact h.symm
    · exact fun h => .inr h.symm
  · have happ : lfBreaks (t ++ [c]) = lfBreaks t ++ [c] := by simp [lfBreaks, hb]
    have hc : c ≠ '\n' := by
      rintro rfl
      exact hb isBoundary_lf
    rw [happ, dropEnd_lf_of_ne hc]
    constructor
    · rintro (h | h)
      · exact h.symm
      · have := congrArg List.length h
        simp [hlength] at this
    · exact fun h => .inl h.symm

end Text

end Oneshot
