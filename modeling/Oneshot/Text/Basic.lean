/-!
# Texts

A text is the list of its code points, so that every function on it is a recursion that a proof
can follow. This module holds what the rest of the library asks of texts: whether one occurs in
another, where it is cut at its first or last occurrence, and how texts are joined.

- `toList_eq`: a literal is the text of its characters.
- `cutFirst?_eq` and `cutLast?_eq`: the two halves of a cut and the separator between them are the
  whole text.
- `splitAt_join`: pieces that are joined by a separator are the pieces of the text.
- `nodup_firsts` and `mem_firsts`: the first places of a list name each of its elements once.
-/

namespace Oneshot

/-- A text, as the list of its code points. -/
abbrev Text := List Char

/-- The bytes of a file or of a stream. -/
abbrev Bytes := List UInt8

instance : Coe String Text := ⟨String.toList⟩

namespace Text

/-- Whether `pattern` occurs somewhere in the text; the empty pattern occurs in every text. -/
def occursIn (pattern : Text) : Text → Bool
  | [] => pattern.isEmpty
  | c :: cs => pattern.isPrefixOf (c :: cs) || occursIn pattern cs

/-- The text without `start` in front; a text that does not begin with it is unchanged. -/
def dropStart (start s : Text) : Text :=
  if start.isPrefixOf s then s.drop start.length else s

/-- The text without `final` at its end; a text that does not end with it is unchanged. -/
def dropEnd (final s : Text) : Text :=
  if final.isSuffixOf s then s.take (s.length - final.length) else s

/-- The parts before and after the first occurrence of `separator`. -/
def cutFirst? (separator : Text) : Text → Option (Text × Text)
  | [] => if separator.isEmpty then some ([], []) else none
  | c :: cs =>
    if separator.isPrefixOf (c :: cs) then some ([], (c :: cs).drop separator.length)
    else (cutFirst? separator cs).map fun (before, after) => (c :: before, after)

/-- The parts before and after the last occurrence of `separator`. -/
def cutLast? (separator : Text) : Text → Option (Text × Text)
  | [] => if separator.isEmpty then some ([], []) else none
  | c :: cs =>
    match cutLast? separator cs with
    | some (before, after) => some (c :: before, after)
    | none =>
      if separator.isPrefixOf (c :: cs) then some ([], (c :: cs).drop separator.length)
      else none

/-- The pieces between the occurrences of one character; there is always at least one piece. -/
def splitAt (separator : Char) : Text → List Text
  | [] => [[]]
  | c :: cs =>
    if c = separator then [] :: splitAt separator cs
    else
      match splitAt separator cs with
      | [] => [[c]]
      | piece :: pieces => (c :: piece) :: pieces

/-- The texts one after the other with `separator` between neighbours. -/
def join (separator : Text) : List Text → Text
  | [] => []
  | [s] => s
  | s :: t :: rest => s ++ separator ++ join separator (t :: rest)

/-- The lines one after the other, each ended by LF. -/
def ended (lines : List Text) : Text :=
  lines.flatMap (· ++ ['\n'])

/-- The text with the characters of its end removed as long as they satisfy `p`. -/
def dropEndWhile (p : Char → Bool) : Text → Text
  | [] => []
  | c :: cs =>
    match dropEndWhile p cs with
    | [] => if p c then [] else [c]
    | d :: ds => c :: d :: ds

/-- The elements of a list without repeats, each at the place where it stood first. -/
def firsts [BEq α] (xs : List α) : List α :=
  (xs.foldl (fun seen x => if seen.elem x then seen else x :: seen) []).reverse

/-- The decimal digits of a natural number. -/
def ofNat (n : Nat) : Text := (toString n).toList

/-- The decimal digits of an integer, with a minus sign in front of a negative one. -/
def ofInt : Int → Text
  | .ofNat n => ofNat n
  | .negSucc n => '-' :: ofNat (n + 1)

/-! ### Literals -/

/-- A literal is the text of its characters. A closed statement about literals is evaluated faster
once they are spelled out with this lemma, since an evaluation decodes a literal wherever it meets
it. -/
theorem toList_eq {s : String} {t : Text} (h : s = String.ofList t) : s.toList = t := by
  rw [h, String.toList_ofList]

/-! ### Cuts lose nothing -/

/-- A text without the separator is a single piece. -/
theorem splitAt_of_not_mem {c : Char} {s : Text} (h : c ∉ s) : splitAt c s = [s] := by
  induction s with
  | nil => rfl
  | cons d ds ih =>
    simp only [List.mem_cons, not_or] at h
    have hd : d ≠ c := fun e => h.1 e.symm
    simp [splitAt, hd, ih h.2]

theorem splitAt_append {c : Char} {s : Text} (h : c ∉ s) (t : Text) :
    splitAt c (s ++ c :: t) = s :: splitAt c t := by
  induction s with
  | nil => simp [splitAt]
  | cons d ds ih =>
    simp only [List.mem_cons, not_or] at h
    have hd : d ≠ c := fun e => h.1 e.symm
    simp [splitAt, hd, ih h.2]

/-- Pieces without the separator are the pieces of the text that joins them. -/
theorem splitAt_join {c : Char} {pieces : List Text} (hne : pieces ≠ [])
    (h : ∀ piece ∈ pieces, c ∉ piece) : splitAt c (join [c] pieces) = pieces := by
  induction pieces with
  | nil => exact absurd rfl hne
  | cons piece rest ih =>
    cases rest with
    | nil => simpa [join] using splitAt_of_not_mem (h piece (by simp))
    | cons next rest =>
      have := ih (by simp) fun other ho => h other (List.mem_cons_of_mem _ ho)
      simp only [join, List.append_assoc, List.singleton_append]
      rw [splitAt_append (h piece (by simp)), this]

theorem eq_append_drop_of_isPrefixOf {p s : Text} (h : p.isPrefixOf s = true) :
    s = p ++ s.drop p.length := by
  obtain ⟨t, rfl⟩ := List.isPrefixOf_iff_prefix.1 h
  simp

/-- A cut at the first occurrence gives back the whole text. -/
theorem cutFirst?_eq {sep s a b : Text} (h : cutFirst? sep s = some (a, b)) :
    s = a ++ sep ++ b := by
  induction s generalizing a b with
  | nil =>
    simp only [cutFirst?] at h
    split at h
    · simp_all
    · simp at h
  | cons c cs ih =>
    simp only [cutFirst?] at h
    split at h
    · next hp =>
      simp only [Option.some.injEq, Prod.mk.injEq] at h
      obtain ⟨rfl, rfl⟩ := h
      simpa using eq_append_drop_of_isPrefixOf hp
    · simp only [Option.map_eq_some_iff, Prod.mk.injEq] at h
      obtain ⟨⟨a', b'⟩, hc, rfl, rfl⟩ := h
      simpa using ih hc

/-- A cut at the last occurrence gives back the whole text. -/
theorem cutLast?_eq {sep s a b : Text} (h : cutLast? sep s = some (a, b)) :
    s = a ++ sep ++ b := by
  induction s generalizing a b with
  | nil =>
    simp only [cutLast?] at h
    split at h
    · simp_all
    · simp at h
  | cons c cs ih =>
    simp only [cutLast?] at h
    split at h
    · next hc =>
      simp only [Option.some.injEq, Prod.mk.injEq] at h
      obtain ⟨rfl, rfl⟩ := h
      simpa using ih hc
    · split at h
      · next hp =>
        simp only [Option.some.injEq, Prod.mk.injEq] at h
        obtain ⟨rfl, rfl⟩ := h
        simpa using eq_append_drop_of_isPrefixOf hp
      · simp at h

/-! ### First places -/

section firsts

variable {α : Type} [BEq α] [LawfulBEq α]

theorem nodup_foldl_firsts {seen : List α} (h : seen.Nodup) (xs : List α) :
    (xs.foldl (fun seen x => if seen.elem x then seen else x :: seen) seen).Nodup := by
  induction xs generalizing seen with
  | nil => exact h
  | cons x xs ih =>
    rw [List.foldl_cons]
    refine ih ?_
    split
    · exact h
    · next hx => exact List.nodup_cons.2 ⟨by simpa using hx, h⟩

theorem mem_foldl_firsts {seen xs : List α} {x : α} :
    x ∈ xs.foldl (fun seen x => if seen.elem x then seen else x :: seen) seen ↔
      x ∈ seen ∨ x ∈ xs := by
  induction xs generalizing seen with
  | nil => simp
  | cons y ys ih =>
    rw [List.foldl_cons, ih, List.mem_cons]
    split
    · next hy =>
      have hy' : y ∈ seen := by simpa using hy
      constructor
      · exact Or.imp_right .inr
      · rintro (h | rfl | h)
        · exact .inl h
        · exact .inl hy'
        · exact .inr h
    · rw [List.mem_cons, or_assoc, or_left_comm]

/-- No element has two first places. -/
theorem nodup_firsts (xs : List α) : (firsts xs).Nodup :=
  List.pairwise_reverse.2 ((nodup_foldl_firsts List.nodup_nil xs).imp Ne.symm)

theorem mem_firsts {xs : List α} {x : α} : x ∈ firsts xs ↔ x ∈ xs := by
  rw [firsts, List.mem_reverse, mem_foldl_firsts]
  simp

end firsts

end Text

end Oneshot
