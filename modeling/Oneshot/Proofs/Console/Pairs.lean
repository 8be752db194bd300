import Mathlib.Data.List.Basic
import Mathlib.Data.List.TakeWhile
import Oneshot.Console.Highlight

/-!
# Pairs in a Debug Line

The pairs of a debug line are the matches of a pattern with alternatives. A part of a pattern can
match in several ways, and there is an order among them: a repetition takes as much as it can, or as
little as it can, and of two alternatives the first one comes first. What the pattern matches is the
first way in which all of its parts match one after the other, so that a search may have to go back
on a way that it has taken.

The pairs are read without going back. That this comes to the same has two reasons: no character of
a key is the sign behind it, so that a shorter key is of no use, and a quoted value ends at the
first quote, or a line end comes before it, and then there is no quoted value at all.

* `Part`: the ways in which a part of a pattern matches, in order.
* `pair?_eq_head?_ways`: a pair that is read is the first way of the pattern.
* `PairAt`, `pair?_eq_some_iff`: the same said of the texts, without an order of ways.
-/

namespace Oneshot

namespace Console

/-! ### Patterns -/

/-- The ways in which a part of a pattern matches at the start of a text: what it takes, and what is
left. The first ones come first. -/
abbrev Part := Text → List (Text × Text)

namespace Part

variable {p : Char → Bool} {c : Char} {s : Text} {β : Type}

/-- A part takes a character more, in all of its ways. -/
def push (c : Char) (ways : List (Text × Text)) : List (Text × Text) :=
  ways.map fun way => (c :: way.1, way.2)

/-- A single character. -/
def one (p : Char → Bool) : Part
  | [] => []
  | c :: s => if p c then [([c], s)] else []

/-- As many characters as can be. -/
def most (p : Char → Bool) : Part
  | [] => [([], [])]
  | c :: s => (if p c then push c (most p s) else []) ++ [([], c :: s)]

/-- As few characters as can be. -/
def fewest (p : Char → Bool) : Part
  | [] => [([], [])]
  | c :: s => ([], c :: s) :: if p c then push c (fewest p s) else []

/-- A part behind some ways. -/
def extend (ways : List (Text × Text)) (next : Part) : List (Text × Text) :=
  ways.flatMap fun way => (next way.2).map fun more => (way.1 ++ more.1, more.2)

/-- A part behind another one. -/
def andThen (first next : Part) : Part := fun s =>
  extend (first s) next

/-- A part, or else another one. -/
def orElse (first second : Part) : Part := fun s =>
  first s ++ second s

/-- At least one character, and as many as can be. -/
def run (p : Char → Bool) : Part :=
  andThen (one p) (most p)

/-- What stands between two quotes on a line, up to the first quote that can end it. -/
def quoted : Part :=
  andThen (one (· == '"')) (andThen (fewest (· != '\n')) (one (· == '"')))

/-- A value: what is quoted, or else a run of characters that are not blank. -/
def value : Part :=
  orElse quoted (run (!isBlank ·))

theorem head?_push (ways : List (Text × Text)) :
    (push c ways).head? = ways.head?.map fun way => (c :: way.1, way.2) :=
  List.head?_map

theorem extend_push (ways : List (Text × Text)) (next : Part) :
    extend (push c ways) next = push c (extend ways next) := by
  simp only [extend, push, List.flatMap_map, List.map_flatMap, List.map_map, List.cons_append]
  rfl

theorem extend_singleton (next : Part) : extend [([c], s)] next = push c (next s) := by
  simp [extend, push]

theorem run_cons : run p (c :: s) = if p c then push c (most p s) else [] := by
  rw [run, andThen, one]
  split
  · exact extend_singleton _
  · rfl

theorem head?_most : (most p s).head? = some (s.takeWhile p, s.dropWhile p) := by
  induction s with
  | nil => rfl
  | cons c s ih =>
    by_cases hc : p c
    · simp [most, push, hc, ih]
    · simp [most, hc]

/-- The first way of a run is the longest. -/
theorem head?_run :
    (run p s).head? = if s.takeWhile p = [] then none else some (s.takeWhile p, s.dropWhile p) := by
  cases s with
  | nil => rfl
  | cons c s =>
    by_cases hc : p c
    · simp [run_cons, push, hc, head?_most]
    · simp [run_cons, hc]

/-- What cannot go on with a character of a repetition goes on behind the longest way alone. -/
theorem flatMap_most {f : Text × Text → List β} (hf : ∀ t c s, p c = true → f (t, c :: s) = []) :
    (most p s).flatMap f = f (s.takeWhile p, s.dropWhile p) := by
  induction s generalizing f with
  | nil => simp [most]
  | cons c s ih =>
    by_cases hc : p c
    · have hpush := ih (f := fun way => f (c :: way.1, way.2)) fun t c s hc => hf _ c s hc
      simp [most, push, hc, List.flatMap_map, hpush, hf [] c s hc]
    · simp [most, hc]

theorem flatMap_run {f : Text × Text → List β} (hf : ∀ t c s, p c = true → f (t, c :: s) = []) :
    (run p s).flatMap f
      = if s.takeWhile p = [] then [] else f (s.takeWhile p, s.dropWhile p) := by
  cases s with
  | nil => rfl
  | cons c s =>
    by_cases hc : p c
    · have hpush := flatMap_most (s := s) (f := fun way => f (c :: way.1, way.2))
        fun t c s hc => hf _ c s hc
      simp [run_cons, push, hc, List.flatMap_map, hpush]
    · simp [run_cons, hc]

/-- A character that can stand between two quotes. -/
def isInner (c : Char) : Bool :=
  c != '"' && c != '\n'

/-- Whatever stands in front of it, the first quote is the end, unless a line ends before. -/
theorem head?_fewest_quote :
    (andThen (fewest (· != '\n')) (one (· == '"')) s).head?
      = if (s.dropWhile isInner).head? = some '"' then
          some (s.takeWhile isInner ++ ['"'], (s.dropWhile isInner).tail)
        else none := by
  induction s with
  | nil => rfl
  | cons c s ih =>
    by_cases hquote : c = '"'
    · simp [andThen, fewest, extend, one, isInner, hquote]
    by_cases hline : c = '\n'
    · simp [andThen, fewest, extend, one, isInner, hline]
    have hinner : isInner c = true := by simp [isInner, hquote, hline]
    have hways : andThen (fewest (· != '\n')) (one (· == '"')) (c :: s)
        = push c (andThen (fewest (· != '\n')) (one (· == '"')) s) := by
      rw [andThen, fewest, if_pos (by simpa using hline), andThen, ← extend_push]
      simp [extend, one, hquote]
    rw [hways, head?_push, ih, List.dropWhile_cons_of_pos hinner, List.takeWhile_cons_of_pos hinner]
    split <;> rfl

end Part

open Part (isInner)

variable {s key value : Text}

theorem drop_length_takeWhile (p : Char → Bool) (s : Text) :
    s.drop (s.takeWhile p).length = s.dropWhile p := by
  have hsplit := List.takeWhile_append_dropWhile (p := p) (l := s)
  calc s.drop (s.takeWhile p).length
      = (s.takeWhile p ++ s.dropWhile p).drop (s.takeWhile p).length := by rw [hsplit]
    _ = s.dropWhile p := List.drop_left

theorem quotedValue?_quote (s : Text) :
    quotedValue? ('"' :: s) = if (s.dropWhile isInner).head? = some '"' then
      some ('"' :: (s.takeWhile isInner ++ ['"'])) else none := by
  rw [← drop_length_takeWhile]
  rfl

theorem quotedValue?_of_ne {c : Char} (hc : c ≠ '"') (s : Text) :
    quotedValue? (c :: s) = none := by
  simp [quotedValue?, hc]

/-- The first way of a quoted value is the one that is read. -/
theorem head?_quoted (s : Text) : (Part.quoted s).head?.map Prod.fst = quotedValue? s := by
  rcases s with _ | ⟨c, s⟩
  · rfl
  by_cases hc : c = '"'
  · subst hc
    have hways : Part.quoted ('"' :: s) = Part.push '"'
        (Part.andThen (Part.fewest (· != '\n')) (Part.one (· == '"')) s) :=
      Part.extend_singleton _
    rw [hways, Part.head?_push, Part.head?_fewest_quote, quotedValue?_quote]
    split <;> rfl
  · have hways : Part.quoted (c :: s) = [] := by
      simp [Part.quoted, Part.andThen, Part.extend, Part.one, hc]
    rw [hways, quotedValue?_of_ne hc]
    rfl

/-- The first way of a value is the one that is read. -/
theorem head?_value (s : Text) : (Part.value s).head?.map Prod.fst = value? s := by
  rw [Part.value, Part.orElse, List.head?_append, value?, ← head?_quoted]
  cases (Part.quoted s).head? with
  | some way => rfl
  | none =>
    simp only [Option.none_or, Option.map_none, Part.head?_run, List.isEmpty_iff]
    split <;> rfl

/-- The keys and values that the pattern matches at the start of a text, the first ones first: a run
of key characters, the sign and a value. -/
def ways (s : Text) : List (Text × Text) :=
  (Part.run isKeyChar s).flatMap fun key => (Part.one (· == '=') key.2).flatMap fun sign =>
    (Part.value sign.2).map fun value => (key.1, value.1)

/-- **A pair that is read is the first way of the pattern.** -/
theorem pair?_eq_head?_ways (s : Text) : pair? s = (ways s).head? := by
  -- the sign is no character of a key, so that nothing but the longest key leads on
  have hsign : ∀ c, isKeyChar c = true → (c == '=') = false := by
    intro c hc
    rw [beq_eq_false_iff_ne]
    rintro rfl
    exact absurd hc (by decide)
  rw [ways, Part.flatMap_run fun t c s hc => by simp [Part.one, hsign c hc], pair?]
  simp only [drop_length_takeWhile]
  generalize s.takeWhile isKeyChar = key
  rcases s.dropWhile isKeyChar with _ | ⟨c, rest⟩
  · simp [Part.one]
  by_cases hc : c = '='
  · subst hc
    by_cases hkey : key = []
    · simp [hkey]
    · simp [hkey, Part.one, ← head?_value, Function.comp_def]
  · simp [Part.one, hc]

/-! ### Pairs by their texts -/

/-- Two quotes stand at the start, on one line and with no quote between them. -/
def QuotedAt (s value : Text) : Prop :=
  ∃ inner rest, s = '"' :: (inner ++ '"' :: rest) ∧ '"' ∉ inner ∧ '\n' ∉ inner ∧
    value = '"' :: (inner ++ ['"'])

/-- A run of characters that are not blank stands at the start, and no such character behind it. -/
structure RunAt (s value : Text) : Prop where
  ne_nil : value ≠ []
  isBlank : ∀ c ∈ value, isBlank c = false
  ended : ∃ rest, s = value ++ rest ∧ ∀ c ∈ rest.head?, Oneshot.isBlank c = true

/-- A value stands at the start: a quoted one, or a run where there is no quoted one. -/
def ValueAt (s value : Text) : Prop :=
  QuotedAt s value ∨ (∀ other, ¬ QuotedAt s other) ∧ RunAt s value

/-- A pair stands at the start: a run of word characters and hyphens, the sign and a value. -/
structure PairAt (s key value : Text) : Prop where
  ne_nil : key ≠ []
  chars : ∀ c ∈ key, isWordChar c = true ∨ c = '-'
  value : ∃ rest, s = key ++ '=' :: rest ∧ ValueAt rest value

theorem quotedValue?_eq_some_iff : quotedValue? s = some value ↔ QuotedAt s value := by
  rcases s with _ | ⟨c, s⟩
  · simp [quotedValue?, QuotedAt]
  by_cases hc : c = '"'
  swap
  · simp [quotedValue?_of_ne hc, QuotedAt, hc]
  subst hc
  rw [quotedValue?_quote]
  constructor
  · intro h
    split at h
    · next hhead =>
      obtain ⟨rest, hrest⟩ : ∃ rest, s.dropWhile isInner = '"' :: rest := by
        rcases hdrop : s.dropWhile isInner with _ | ⟨d, rest⟩
        · simp [hdrop] at hhead
        · obtain rfl : d = '"' := by simpa [hdrop] using hhead
          exact ⟨rest, rfl⟩
      have hinner : ∀ c ∈ s.takeWhile isInner, isInner c = true :=
        List.all_eq_true.1 List.all_takeWhile
      refine ⟨s.takeWhile isInner, rest, ?_, ?_, ?_, (Option.some.inj h).symm⟩
      · rw [← hrest, List.takeWhile_append_dropWhile]
      · exact fun hmem => absurd (hinner _ hmem) (by decide)
      · exact fun hmem => absurd (hinner _ hmem) (by decide)
    · simp at h
  · rintro ⟨inner, rest, hs, hquote, hline, rfl⟩
    obtain rfl : s = inner ++ '"' :: rest := List.tail_eq_of_cons_eq hs
    have hinner : ∀ c ∈ inner, isInner c = true := by
      intro c hc
      simp only [isInner, Bool.and_eq_true, bne_iff_ne]
      exact ⟨fun h => hquote (h ▸ hc), fun h => hline (h ▸ hc)⟩
    have hend : isInner '"' = false := by decide
    simp [List.dropWhile_append_of_pos hinner, List.takeWhile_append_of_pos hinner, hend]

theorem runAt_iff : RunAt s value ↔ value ≠ [] ∧ s.takeWhile (!isBlank ·) = value := by
  constructor
  · rintro ⟨hne, hblank, rest, rfl, hend⟩
    refine ⟨hne, ?_⟩
    rw [List.takeWhile_append_of_pos fun c hc => by simp [hblank c hc]]
    rcases rest with _ | ⟨c, rest⟩
    · simp
    · simp [hend c rfl]
  · rintro ⟨hne, rfl⟩
    refine ⟨hne, fun c hc => ?_, s.dropWhile (!isBlank ·), ?_, fun c hc => ?_⟩
    · simpa using List.all_eq_true.1 List.all_takeWhile c hc
    · rw [List.takeWhile_append_dropWhile]
    · have hfirst := List.head?_dropWhile_not (!isBlank ·) s
      rw [Option.mem_def.1 hc] at hfirst
      simpa using hfirst

theorem value?_eq_some_iff : value? s = some value ↔ ValueAt s value := by
  rw [value?, ValueAt, runAt_iff]
  cases hquoted : quotedValue? s with
  | some other =>
    constructor
    · exact fun h => .inl (quotedValue?_eq_some_iff.1 (hquoted.trans h))
    · rintro (hvalue | ⟨hnone, -⟩)
      · exact hquoted.symm.trans (quotedValue?_eq_some_iff.2 hvalue)
      · exact absurd (quotedValue?_eq_some_iff.1 hquoted) (hnone other)
  | none =>
    have hnone : ∀ other, ¬ QuotedAt s other := fun other hother => by
      simp [quotedValue?_eq_some_iff.2 hother] at hquoted
    simp only [hnone, false_or, not_false_eq_true, implies_true, true_and, List.isEmpty_iff]
    split
    · next hempty => simp [hempty, eq_comm]
    · next hne =>
      rw [Option.some.injEq]
      exact ⟨fun h => ⟨h ▸ hne, h⟩, fun h => h.2⟩

/-- **A pair is read exactly where one stands.** -/
theorem pair?_eq_some_iff : pair? s = some (key, value) ↔ PairAt s key value := by
  have hchar : ∀ c, isKeyChar c = true ↔ isWordChar c = true ∨ c = '-' := by simp [isKeyChar]
  rw [pair?]
  simp only [drop_length_takeWhile]
  constructor
  · intro h
    split at h
    · next rest hrest =>
      split at h
      · simp at h
      · next hne =>
        obtain ⟨v, hv, hpair⟩ := Option.map_eq_some_iff.1 h
        obtain ⟨rfl, rfl⟩ := Prod.mk.inj hpair
        refine ⟨by simpa using hne, fun c hc => (hchar c).1 ?_, rest, ?_, value?_eq_some_iff.1 hv⟩
        · exact List.all_eq_true.1 List.all_takeWhile c hc
        · rw [← hrest, List.takeWhile_append_dropWhile]
    · simp at h
  · rintro ⟨hne, hchars, rest, rfl, hvalue⟩
    have hkey : ∀ c ∈ key, isKeyChar c = true := fun c hc => (hchar c).2 (hchars c hc)
    have hsign : isKeyChar '=' = false := by decide
    simp [List.takeWhile_append_of_pos hkey, List.dropWhile_append_of_pos hkey, hsign, hne,
      value?_eq_some_iff.2 hvalue]

/-- A pair at a place is the first way of the pattern there. -/
theorem pairAt_iff_head?_ways : PairAt s key value ↔ (ways s).head? = some (key, value) := by
  rw [← pair?_eq_head?_ways, pair?_eq_some_iff]

end Console

end Oneshot
